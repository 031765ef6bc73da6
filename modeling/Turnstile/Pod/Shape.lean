/-
Module: Turnstile.Pod.Shape
Purpose: The shape of pods on the wire.
Main exports: Pod.shape, Pod.specShape, Pod.statusShape
-/
import Turnstile.Metadata

/-!
The tables list every member of a pod by name, with its shape and whether it is always written.
-/

namespace Turnstile.Pod

/-- An object of optional texts. -/
def optionalTexts (keys : List String) : List (String × Presence × Shape) :=
  keys.map fun key => (key, .optional, .text)

/-- An object of required texts. -/
def requiredTexts (keys : List String) : List (String × Presence × Shape) :=
  keys.map fun key => (key, .required, .text)

/-- An object of optional flags. -/
def optionalFlags (keys : List String) : List (String × Presence × Shape) :=
  keys.map fun key => (key, .optional, .flag)

/-- A reference by name within the namespace. -/
def nameReference : Shape := .record (requiredTexts ["name"])

/-- A key of a named object. -/
def keySelector : Shape :=
  .record (requiredTexts ["key", "name"] ++ optionalFlags ["optional"])

/-- A path to a field of the pod. -/
def fieldSelector : Shape :=
  .record (optionalTexts ["apiVersion"] ++ requiredTexts ["fieldPath"])

/-- A resource of a container. -/
def resourceSelector : Shape :=
  .record (optionalTexts ["containerName", "divisor"] ++ requiredTexts ["resource"])

/-- A variable of a container's environment. -/
def envShape : Shape :=
  .record (requiredTexts ["name"] ++ optionalTexts ["value"] ++
    [("valueFrom", .optional, .record
      [("configMapKeyRef", .optional, keySelector),
       ("fieldRef", .optional, fieldSelector),
       ("resourceFieldRef", .optional, resourceSelector),
       ("secretKeyRef", .optional, keySelector)])])

/-- A source of variables. -/
def envFromShape : Shape :=
  .record
    ([("configMapRef", .optional, .record (requiredTexts ["name"] ++ optionalFlags ["optional"])),
      ("secretRef", .optional, .record (requiredTexts ["name"] ++ optionalFlags ["optional"]))] ++
      optionalTexts ["prefix"])

/-- A command run inside a container. -/
def execAction : Shape := .record [("command", .optional, .list .text)]

/-- A request sent to a container. -/
def httpAction : Shape :=
  .record
    ([("httpHeaders", .optional, .list (.record (requiredTexts ["name", "value"]))),
      ("port", .required, .textOrInteger)] ++ optionalTexts ["host", "path", "scheme"])

/-- A connection to a container. -/
def tcpAction : Shape :=
  .record ([("port", .required, .textOrInteger)] ++ optionalTexts ["host"])

/-- A handler of a container's life cycle. -/
def lifecycleHandler : Shape :=
  .record
    [("exec", .optional, execAction),
     ("httpGet", .optional, httpAction),
     ("sleep", .optional, .record [("seconds", .required, Shape.int64)]),
     ("tcpSocket", .optional, tcpAction)]

/-- A probe of a container. -/
def probeShape : Shape :=
  .record
    ([("exec", .optional, execAction),
      ("grpc", .optional, .record ([("port", .required, Shape.int32)] ++ optionalTexts ["service"])),
      ("httpGet", .optional, httpAction),
      ("tcpSocket", .optional, tcpAction),
      ("terminationGracePeriodSeconds", .optional, Shape.int64)] ++
      (["failureThreshold", "initialDelaySeconds", "periodSeconds", "successThreshold",
        "timeoutSeconds"].map fun key => (key, .optional, Shape.int32)))

/-- The resources a container asks for. -/
def resourcesShape : Shape :=
  .record
    [("claims", .optional, .list (.record (requiredTexts ["name"] ++ optionalTexts ["request"]))),
     ("limits", .optional, .table .text),
     ("requests", .optional, .table .text)]

/-- Labels of the security module of the host. -/
def securityLabels : Shape := .record (optionalTexts ["level", "role", "type", "user"])

/-- A profile by type. -/
def profileShape : Shape := .record (optionalTexts ["localhostProfile"] ++ requiredTexts ["type"])

/-- The security settings of a container. -/
def containerSecurity : Shape :=
  .record
    ([("appArmorProfile", .optional, profileShape),
      ("capabilities", .optional, .record
        [("add", .optional, .list .text), ("drop", .optional, .list .text)]),
      ("runAsGroup", .optional, Shape.int64),
      ("runAsUser", .optional, Shape.int64),
      ("seLinuxOptions", .optional, securityLabels),
      ("seccompProfile", .optional, profileShape)] ++
      optionalTexts ["procMount"] ++
      optionalFlags ["allowPrivilegeEscalation", "privileged", "readOnlyRootFilesystem", "runAsNonRoot"])

/-- A mount of a volume. -/
def mountShape : Shape :=
  .record (requiredTexts ["mountPath", "name"] ++
    optionalTexts ["mountPropagation", "recursiveReadOnly", "subPath", "subPathExpr"] ++
    optionalFlags ["readOnly"])

/-- A container of a pod. -/
def containerFields : List (String × Presence × Shape) :=
  [("args", .optional, .list .text),
   ("command", .optional, .list .text),
   ("env", .optional, .list envShape),
   ("envFrom", .optional, .list envFromShape),
   ("lifecycle", .optional, .record
     [("postStart", .optional, lifecycleHandler), ("preStop", .optional, lifecycleHandler)]),
   ("livenessProbe", .optional, probeShape),
   ("ports", .optional, .list (.record
     ([("containerPort", .required, Shape.int32), ("hostPort", .optional, Shape.int32)] ++
       optionalTexts ["hostIP", "name", "protocol"]))),
   ("readinessProbe", .optional, probeShape),
   ("resizePolicy", .optional, .list (.record (requiredTexts ["resourceName", "restartPolicy"]))),
   ("resources", .optional, resourcesShape),
   ("securityContext", .optional, containerSecurity),
   ("startupProbe", .optional, probeShape),
   ("volumeDevices", .optional, .list (.record (requiredTexts ["devicePath", "name"]))),
   ("volumeMounts", .optional, .list mountShape)] ++
  requiredTexts ["name"] ++
  optionalTexts ["image", "imagePullPolicy", "restartPolicy", "terminationMessagePath",
    "terminationMessagePolicy", "workingDir"] ++
  optionalFlags ["stdin", "stdinOnce", "tty"]

/-- A requirement on labels. -/
def labelRequirement : Shape :=
  .record (requiredTexts ["key", "operator"] ++ [("values", .optional, .list .text)])

/-- A selection by labels. -/
def labelSelector : Shape :=
  .record
    [("matchExpressions", .optional, .list labelRequirement), ("matchLabels", .optional, .table .text)]

/-- A term that selects nodes. -/
def nodeTerm : Shape :=
  .record
    [("matchExpressions", .optional, .list labelRequirement),
     ("matchFields", .optional, .list labelRequirement)]

/-- A term that selects pods. -/
def podTerm : Shape :=
  .record
    ([("labelSelector", .optional, labelSelector),
      ("matchLabelKeys", .optional, .list .text),
      ("mismatchLabelKeys", .optional, .list .text),
      ("namespaceSelector", .optional, labelSelector),
      ("namespaces", .optional, .list .text)] ++ requiredTexts ["topologyKey"])

/-- Nearness to other pods. -/
def podNearness : Shape :=
  .record
    [("preferredDuringSchedulingIgnoredDuringExecution", .optional, .list (.record
       [("podAffinityTerm", .required, podTerm), ("weight", .required, Shape.int32)])),
     ("requiredDuringSchedulingIgnoredDuringExecution", .optional, .list podTerm)]

/-- Where a pod prefers to be. -/
def affinityShape : Shape :=
  .record
    [("nodeAffinity", .optional, .record
       [("preferredDuringSchedulingIgnoredDuringExecution", .optional, .list (.record
          [("preference", .required, nodeTerm), ("weight", .required, Shape.int32)])),
        ("requiredDuringSchedulingIgnoredDuringExecution", .optional, .record
          [("nodeSelectorTerms", .required, .list nodeTerm)])]),
     ("podAffinity", .optional, podNearness),
     ("podAntiAffinity", .optional, podNearness)]

/-- A key of an object and the file it becomes. -/
def keyToPath : Shape :=
  .record (requiredTexts ["key", "path"] ++ [("mode", .optional, Shape.int32)])

/-- The volumes a pod may use. -/
def volumeFields : List (String × Presence × Shape) :=
  requiredTexts ["name"] ++
  [("configMap", .optional, .record
     (requiredTexts ["name"] ++ optionalFlags ["optional"] ++
       [("defaultMode", .optional, Shape.int32), ("items", .optional, .list keyToPath)])),
   ("csi", .optional, .record
     (requiredTexts ["driver"] ++ optionalTexts ["fsType"] ++ optionalFlags ["readOnly"] ++
       [("nodePublishSecretRef", .optional, nameReference), ("volumeAttributes", .optional, .table .text)])),
   ("downwardAPI", .optional, .record
     [("defaultMode", .optional, Shape.int32),
      ("items", .optional, .list (.record
        (requiredTexts ["path"] ++
          [("fieldRef", .optional, fieldSelector), ("mode", .optional, Shape.int32),
           ("resourceFieldRef", .optional, resourceSelector)])))]),
   ("emptyDir", .optional, .record (optionalTexts ["medium", "sizeLimit"])),
   ("hostPath", .optional, .record (requiredTexts ["path"] ++ optionalTexts ["type"])),
   ("image", .optional, .record (optionalTexts ["pullPolicy", "reference"])),
   ("nfs", .optional, .record (requiredTexts ["path", "server"] ++ optionalFlags ["readOnly"])),
   ("persistentVolumeClaim", .optional, .record (requiredTexts ["claimName"] ++ optionalFlags ["readOnly"])),
   ("projected", .optional, .record
     [("defaultMode", .optional, Shape.int32),
      ("sources", .optional, .list (.record
        [("configMap", .optional, .record
           (requiredTexts ["name"] ++ optionalFlags ["optional"] ++ [("items", .optional, .list keyToPath)])),
         ("secret", .optional, .record
           (requiredTexts ["name"] ++ optionalFlags ["optional"] ++ [("items", .optional, .list keyToPath)])),
         ("serviceAccountToken", .optional, .record
           (requiredTexts ["path"] ++ optionalTexts ["audience"] ++
             [("expirationSeconds", .optional, Shape.int64)]))]))]),
   ("secret", .optional, .record
     (optionalTexts ["secretName"] ++ optionalFlags ["optional"] ++
       [("defaultMode", .optional, Shape.int32), ("items", .optional, .list keyToPath)]))]

/-- The security settings of a pod. -/
def podSecurity : Shape :=
  .record
    ([("appArmorProfile", .optional, profileShape),
      ("fsGroup", .optional, Shape.int64),
      ("runAsGroup", .optional, Shape.int64),
      ("runAsUser", .optional, Shape.int64),
      ("seLinuxOptions", .optional, securityLabels),
      ("seccompProfile", .optional, profileShape),
      ("supplementalGroups", .optional, .list Shape.int64),
      ("sysctls", .optional, .list (.record (requiredTexts ["name", "value"])))] ++
      optionalTexts ["fsGroupChangePolicy", "supplementalGroupsPolicy"] ++ optionalFlags ["runAsNonRoot"])

/-- What a pod asks for. -/
def specShape : Shape :=
  .record
    ([("activeDeadlineSeconds", .optional, Shape.int64),
      ("affinity", .optional, affinityShape),
      ("containers", .required, .list (.record containerFields)),
      ("dnsConfig", .optional, .record
        [("nameservers", .optional, .list .text),
         ("options", .optional, .list (.record (optionalTexts ["name", "value"]))),
         ("searches", .optional, .list .text)]),
      ("ephemeralContainers", .optional, .list (.record
        (containerFields ++ optionalTexts ["targetContainerName"]))),
      ("hostAliases", .optional, .list (.record
        (requiredTexts ["ip"] ++ [("hostnames", .optional, .list .text)]))),
      ("imagePullSecrets", .optional, .list nameReference),
      ("initContainers", .optional, .list (.record containerFields)),
      ("nodeSelector", .optional, .table .text),
      ("os", .optional, nameReference),
      ("overhead", .optional, .table .text),
      ("priority", .optional, Shape.int32),
      ("readinessGates", .optional, .list (.record (requiredTexts ["conditionType"]))),
      ("resourceClaims", .optional, .list (.record
        (requiredTexts ["name"] ++ optionalTexts ["resourceClaimName", "resourceClaimTemplateName"]))),
      ("schedulingGates", .optional, .list nameReference),
      ("securityContext", .optional, podSecurity),
      ("terminationGracePeriodSeconds", .optional, Shape.int64),
      ("tolerations", .optional, .list (.record
        (optionalTexts ["effect", "key", "operator", "value"] ++
          [("tolerationSeconds", .optional, Shape.int64)]))),
      ("topologySpreadConstraints", .optional, .list (.record
        (requiredTexts ["topologyKey", "whenUnsatisfiable"] ++
          optionalTexts ["nodeAffinityPolicy", "nodeTaintsPolicy"] ++
          [("labelSelector", .optional, labelSelector), ("matchLabelKeys", .optional, .list .text),
           ("maxSkew", .required, Shape.int32), ("minDomains", .optional, Shape.int32)]))),
      ("volumes", .optional, .list (.record volumeFields))] ++
      optionalTexts ["dnsPolicy", "hostname", "nodeName", "preemptionPolicy", "priorityClassName",
        "restartPolicy", "runtimeClassName", "schedulerName", "serviceAccount", "serviceAccountName",
        "subdomain"] ++
      optionalFlags ["automountServiceAccountToken", "enableServiceLinks", "hostIPC", "hostNetwork",
        "hostPID", "hostUsers", "setHostnameAsFQDN", "shareProcessNamespace"])

/-- The state of a container. -/
def containerState : Shape :=
  .record
    [("running", .optional, .record [("startedAt", .optional, .instant)]),
     ("terminated", .optional, .record
       ([("exitCode", .required, Shape.int32),
         ("finishedAt", .optional, .instant),
         ("signal", .optional, Shape.int32),
         ("startedAt", .optional, .instant)] ++ optionalTexts ["containerID", "message", "reason"])),
     ("waiting", .optional, .record (optionalTexts ["message", "reason"]))]

/-- What is known of a container. -/
def containerStatus : Shape :=
  .record
    ([("allocatedResources", .optional, .table .text),
      ("allocatedResourcesStatus", .optional, .list (.record
        (requiredTexts ["name"] ++ [("resources", .optional, .list (.record
          (requiredTexts ["resourceID"] ++ optionalTexts ["health"])))]))),
      ("lastState", .optional, containerState),
      ("ready", .required, .flag),
      ("resources", .optional, resourcesShape),
      ("restartCount", .required, Shape.int32),
      ("started", .optional, .flag),
      ("state", .optional, containerState),
      ("user", .optional, .record [("linux", .optional, .record
        [("gid", .required, Shape.int64), ("supplementalGroups", .optional, .list Shape.int64),
         ("uid", .required, Shape.int64)])]),
      ("volumeMounts", .optional, .list (.record
        (requiredTexts ["mountPath", "name"] ++ optionalTexts ["recursiveReadOnly"] ++
          optionalFlags ["readOnly"])))] ++
      requiredTexts ["image", "imageID", "name"] ++ optionalTexts ["containerID"])

/-- What is known of a pod. -/
def statusShape : Shape :=
  .record
    ([("conditions", .optional, .list (.record
        (requiredTexts ["status", "type"] ++ optionalTexts ["message", "reason"] ++
          [("lastProbeTime", .optional, .instant), ("lastTransitionTime", .optional, .instant)]))),
      ("containerStatuses", .optional, .list containerStatus),
      ("ephemeralContainerStatuses", .optional, .list containerStatus),
      ("hostIPs", .optional, .list (.record (requiredTexts ["ip"]))),
      ("initContainerStatuses", .optional, .list containerStatus),
      ("podIPs", .optional, .list (.record (requiredTexts ["ip"]))),
      ("resourceClaimStatuses", .optional, .list (.record
        (requiredTexts ["name"] ++ optionalTexts ["resourceClaimName"]))),
      ("startTime", .optional, .instant)] ++
      optionalTexts ["hostIP", "message", "nominatedNodeName", "phase", "podIP", "qosClass", "reason",
        "resize"])

/-- A pod. -/
def shape : Shape :=
  .record
    [("apiVersion", .fixed "v1", .text),
     ("kind", .fixed "Pod", .text),
     ("metadata", .required, Metadata.shape),
     ("spec", .optional, specShape),
     ("status", .optional, statusShape)]

end Turnstile.Pod
