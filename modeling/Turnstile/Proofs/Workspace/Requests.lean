/-
Module: Turnstile.Proofs.Workspace.Requests
Purpose: What a reconciliation of a workspace has heard when it sends a request, and what ends it.
Main exports: Workspace.prerequisites, Workspace.dependents, Exchange.fatal?, Workspace.Provided, Workspace.Observed,
  Workspace.Sends, Workspace.prudent_reconcile
-/
import Turnstile.Proofs.Cluster.Transcript
import Turnstile.Proofs.Workspace.Outline

/-!
A reconciliation first looks for the prerequisites.  It goes on to the dependents only if each was found, lists the
runs only once each dependent was heard of, and writes a status last, for what it has observed.  Any reply that is
neither good nor tolerated ends it.
-/

namespace Turnstile

open Attempt

/-- The error for which a reply ends a reconciliation of a workspace.  That a prerequisite does not exist goes by the
reason that the server gives, and that a dependent does not, or does already, by its code. -/
def Exchange.fatal? (exchange : Exchange) : Option ApiError :=
  match exchange.request with
  | .get key =>
    judged (Program.ofKind key.kind)
      (if key.kind = .serviceAccount ∨ key.kind = .secret then ApiError.saysNotFound else ApiError.isNotFound)
      exchange.reply
  | .list _ _ _ => judged (Program.itemsOf Run.ofJson?) (fun _ => false) exchange.reply
  | .create kind _ _ => judged (Program.ofKind kind) ApiError.isAlreadyExists exchange.reply
  | request => judged (Program.ofKind request.kind) (fun _ => false) exchange.reply

namespace Workspace

/-- Where the objects that the workspace refers to are stored. -/
def prerequisites (workspace : Workspace) (space : String) : List Key :=
  (workspace.spec.serviceAccountName.map fun name => ⟨.serviceAccount, space, name⟩).toList ++
    (workspace.spec.secretName.map fun name => ⟨.secret, space, name⟩).toList

/-- Where the objects that the workspace needs are stored. -/
def resources (workspace : Workspace) (space : String) : List Key :=
  [⟨.persistentVolumeClaim, space, workspace.claimName⟩, ⟨.role, space, roleName workspace.name⟩,
   ⟨.roleBinding, space, roleName workspace.name⟩]

/-- The objects that the workspace needs, as they are created. -/
def dependents (workspace : Workspace) (settings : Settings) (space : String) (owner : OwnerReference) :
    List (Key × Json) :=
  [(⟨.persistentVolumeClaim, space, workspace.claimName⟩, workspace.claim settings owner),
   (⟨.role, space, roleName workspace.name⟩, workspace.role owner),
   (⟨.roleBinding, space, roleName workspace.name⟩, workspace.binding space owner)]

/-- The request that writes a status of the workspace. -/
def statusRequest (workspace : Workspace) (space : String) (status : WorkspaceStatus) : Request :=
  .patchStatus ⟨.workspace, space, workspace.name⟩ (statusPatch workspace.metadata status.toJson)

variable {workspace : Workspace} {settings : Settings} {space now : String} {owner : OwnerReference}
  {heard : List Exchange} {key : Key}

theorem kind_of_mem_prerequisites (wanted : key ∈ workspace.prerequisites space) :
    key.kind = .serviceAccount ∨ key.kind = .secret := by
  rcases List.mem_append.mp wanted with account | secret
  · obtain ⟨name, _, rfl⟩ := Option.map_eq_some_iff.mp (Option.mem_toList.mp account)
    exact Or.inl rfl
  · obtain ⟨name, _, rfl⟩ := Option.map_eq_some_iff.mp (Option.mem_toList.mp secret)
    exact Or.inr rfl

theorem kind_of_mem_resources (needed : key ∈ workspace.resources space) :
    key.kind ∈ [Kind.persistentVolumeClaim, .role, .roleBinding] := by
  simp only [resources, List.mem_cons, List.not_mem_nil, or_false] at needed
  rcases needed with rfl | rfl | rfl <;> simp

theorem kind_ne_of_mem_resources (needed : key ∈ workspace.resources space) {kind : Kind}
    (other : kind ∉ [Kind.persistentVolumeClaim, .role, .roleBinding]) : key.kind ≠ kind :=
  fun same => other (same ▸ kind_of_mem_resources needed)

/-- No workspace is made for a workspace. -/
theorem ne_of_mem_resources (needed : key ∈ workspace.resources space) (place name : String) :
    key ≠ ⟨.workspace, place, name⟩ := by
  rintro rfl
  simpa using kind_of_mem_resources needed

/-- What a workspace refers to is not made for it. -/
theorem not_mem_resources_of_mem_prerequisites (wanted : key ∈ workspace.prerequisites space) :
    key ∉ workspace.resources space := by
  intro needed
  rcases kind_of_mem_prerequisites wanted with isKind | isKind
  · exact kind_ne_of_mem_resources needed (by decide) isKind
  · exact kind_ne_of_mem_resources needed (by decide) isKind

theorem map_fst_dependents (workspace : Workspace) (settings : Settings) (space : String) (owner : OwnerReference) :
    (workspace.dependents settings space owner).map Prod.fst = workspace.resources space := rfl

theorem mem_resources_of_mem_dependents {resource : Key × Json}
    (needed : resource ∈ workspace.dependents settings space owner) : resource.1 ∈ workspace.resources space := by
  rw [← map_fst_dependents workspace settings space owner]
  exact List.mem_map_of_mem needed

/-- The objects that the workspace needs are created where they are stored. -/
theorem createdKey_dependents {resource : Key × Json}
    (needed : resource ∈ workspace.dependents settings space owner) :
    Request.createdKey resource.1.kind resource.1.namespaceName resource.2 = resource.1 := by
  simp only [dependents, List.mem_cons, List.not_mem_nil, or_false] at needed
  rcases needed with rfl | rfl | rfl <;> rfl

/-- What the workspace needs is ensured in order, if the workspace can be referred to. -/
theorem ensureResources_eq (workspace : Workspace) (settings : Settings) (space : String) :
    workspace.ensureResources settings space =
      match workspace.controllerReference? with
      | none => fail .missingObjectKey
      | some owner => ensureAll (workspace.dependents settings space owner) := by
  unfold ensureResources
  cases workspace.controllerReference? with
  | none => rfl
  | some owner =>
      simp only [dependents, ensureAll]
      conv_lhs =>
        rw [← bind_pure (ensure ⟨.roleBinding, space, roleName workspace.name⟩ (workspace.binding space owner))]

/-! ### What was heard -/

/-- Nothing was asked for but prerequisites. -/
def Looking (workspace : Workspace) (space : String) (heard : List Exchange) : Prop :=
  ∀ exchange ∈ heard, ∃ key ∈ workspace.prerequisites space, exchange.request = .get key

/-- Each prerequisite was found, whenever it was looked for, and no status was written. -/
structure Provided (workspace : Workspace) (space : String) (heard : List Exchange) : Prop where
  found : ∀ key ∈ workspace.prerequisites space, ∃ exchange ∈ heard, exchange.request = .get key
  only : ∀ exchange ∈ heard, ∀ key ∈ workspace.prerequisites space, exchange.request = .get key →
    ∃ json, exchange.reply = .ok json
  unwritten : ∀ exchange ∈ heard, exchange.request.verb ≠ .patchStatus

/-- The observation is what was heard: something is missing and nothing else was asked for, or each prerequisite was
found, each dependent was heard of, and the runs were listed. -/
inductive Observed (workspace : Workspace) (space : String) (heard : List Exchange) : Observation → Prop where
  | lacking {missing : List String} (lacks : missing ≠ []) (looking : workspace.Looking space heard) :
      Observed workspace space heard { missing }
  | complete {json : Json} {runs : List Run} (provided : workspace.Provided space heard)
      (secured : ∀ key ∈ workspace.resources space, ∃ exchange ∈ heard, Secures key exchange)
      (listed : ⟨workspace.listing space, .ok json⟩ ∈ heard) (read : Program.itemsOf Run.ofJson? json = some runs) :
      Observed workspace space heard { pending := pendingNames runs }

/-- What a reconciliation asks for, with what it has heard by then. -/
inductive Sends (workspace : Workspace) (settings : Settings) (now space : String) (heard : List Exchange) :
    Request → Prop where
  | looks {key : Key} (wanted : key ∈ workspace.prerequisites space) (looking : workspace.Looking space heard) :
      Sends workspace settings now space heard (.get key)
  | checks {key : Key} (needed : key ∈ workspace.resources space) (provided : workspace.Provided space heard) :
      Sends workspace settings now space heard (.get key)
  | creates {owner : OwnerReference} {resource : Key × Json}
      (needed : resource ∈ workspace.dependents settings space owner) (provided : workspace.Provided space heard) :
      Sends workspace settings now space heard (.create resource.1.kind resource.1.namespaceName resource.2)
  | lists (provided : workspace.Provided space heard) :
      Sends workspace settings now space heard (workspace.listing space)
  | writes {observation : Observation} {status : WorkspaceStatus}
      (observed : workspace.Observed space heard observation)
      (planned : workspace.nextStatus? now observation = some status) :
      Sends workspace settings now space heard (workspace.statusRequest space status)

/-- Prerequisites stay found while something else is asked for. -/
theorem Provided.cons (provided : workspace.Provided space heard) {exchange : Exchange}
    (other : ∀ key ∈ workspace.prerequisites space, exchange.request ≠ .get key)
    (unwritten : exchange.request.verb ≠ .patchStatus) : workspace.Provided space (exchange :: heard) where
  found := by
    intro key wanted
    obtain ⟨earlier, told, about⟩ := provided.found key wanted
    exact ⟨earlier, List.mem_cons_of_mem exchange told, about⟩
  only := by
    intro given told key wanted about
    rcases List.mem_cons.mp told with rfl | earlier
    · exact absurd about (other key wanted)
    · exact provided.only given earlier key wanted about
  unwritten := List.forall_mem_cons.mpr ⟨unwritten, provided.unwritten⟩

/-- Prerequisites stay found while something that the workspace needs is asked for. -/
theorem Provided.ensuring (provided : workspace.Provided space heard) {resource : Key × Json} {exchange : Exchange}
    (needed : resource ∈ workspace.dependents settings space owner)
    (about : exchange.request = .get resource.1 ∨
      exchange.request = .create resource.1.kind resource.1.namespaceName resource.2) :
    workspace.Provided space (exchange :: heard) := by
  refine provided.cons ?_ ?_
  · intro key wanted same
    rcases about with get | create
    · cases get.symm.trans same
      exact not_mem_resources_of_mem_prerequisites wanted (mem_resources_of_mem_dependents needed)
    · cases create.symm.trans same
  · rcases about with get | create
    · simp [get, Request.verb]
    · simp [create, Request.verb]

/-- Looking for prerequisites writes no status. -/
theorem Looking.unwritten (looking : workspace.Looking space heard) :
    ∀ exchange ∈ heard, exchange.request.verb ≠ .patchStatus := by
  intro exchange told
  obtain ⟨key, _, about⟩ := looking exchange told
  simp [about, Request.verb]

/-! ### The parts of a reconciliation -/

/-- Nothing was asked for but prerequisites, and these keys were. -/
structure Sought (workspace : Workspace) (space : String) (keys : List Key) (heard : List Exchange) : Prop where
  looking : workspace.Looking space heard
  sought : ∀ key ∈ keys, ∃ exchange ∈ heard, exchange.request = .get key

/-- One more prerequisite is looked for. -/
theorem Sought.cons {keys : List Key} (sought : workspace.Sought space keys heard)
    (wanted : key ∈ workspace.prerequisites space) (reply : Except ApiError Json) :
    workspace.Sought space (keys ++ [key]) (⟨.get key, reply⟩ :: heard) where
  looking := List.forall_mem_cons.mpr ⟨⟨key, wanted, rfl⟩, sought.looking⟩
  sought := by
    intro given told
    rcases List.mem_append.mp told with earlier | here
    · obtain ⟨exchange, member, about⟩ := sought.sought given earlier
      exact ⟨exchange, List.mem_cons_of_mem _ member, about⟩
    · cases List.mem_singleton.mp here
      exact ⟨_, List.mem_cons_self, rfl⟩

/-- Every reply was good. -/
def Answered (heard : List Exchange) : Prop :=
  ∀ exchange ∈ heard, ∃ json, exchange.reply = .ok json

/-- Looking for a prerequisite is prudent. -/
theorem prudent_missing? {kind : Kind} {name : Option String} {keys : List Key}
    (counts : kind = .serviceAccount ∨ kind = .secret)
    (wanted : ∀ given, name = some given → ⟨kind, space, given⟩ ∈ workspace.prerequisites space)
    (clean : Clean Exchange.fatal? heard) (sought : workspace.Sought space keys heard) :
    Prudent Exchange.fatal? (workspace.Sends settings now space)
      (fun lacks later => workspace.Sought space (keys ++ (name.map fun given => ⟨kind, space, given⟩).toList) later ∧
        (lacks = none → Answered heard → Answered later))
      (missing? kind space name) heard := by
  cases name with
  | none => exact prudent_pure clean ⟨by simpa using sought, fun _ good => good⟩
  | some given =>
      refine Prudent.bind (fun seen later => workspace.Sought space (keys ++ [⟨kind, space, given⟩]) later ∧
        (seen.isSome = true → Answered heard → Answered later)) ?_ ?_
      · refine prudent_find? clean (.looks (wanted given rfl) sought.looking) ?_ ?_ ?_
        · intro reply
          simp only [Exchange.fatal?, counts, if_true]
        · exact fun json _ _ => ⟨sought.cons (wanted given rfl) _,
            fun _ good => List.forall_mem_cons.mpr ⟨⟨json, rfl⟩, good⟩⟩
        · exact fun error _ => ⟨sought.cons (wanted given rfl) _, fun impossible => by cases impossible⟩
      · rintro seen later clean ⟨sought, good⟩
        refine prudent_pure clean ⟨sought, ?_⟩
        cases seen with
        | none => exact fun impossible => by cases impossible
        | some value => exact fun _ => good rfl

/-- Looking for the prerequisites is prudent; if none is missing, each was found. -/
theorem prudent_missingPrerequisites (workspace : Workspace) (settings : Settings) (now space : String) :
    Prudent Exchange.fatal? (workspace.Sends settings now space)
      (fun missing later => workspace.Looking space later ∧ (missing = [] → workspace.Provided space later))
      (workspace.missingPrerequisites space) [] := by
  have begins : workspace.Sought space [] [] := ⟨List.forall_mem_nil _, List.forall_mem_nil _⟩
  refine Prudent.bind _ (prudent_missing? (Or.inl rfl) ?_ (List.forall_mem_nil _) begins) ?_
  · intro given same
    simp [prerequisites, same]
  · rintro account heard clean ⟨sought, good⟩
    refine Prudent.bind _ (prudent_missing? (Or.inr rfl) ?_ clean sought) ?_
    · intro given same
      simp [prerequisites, same]
    · rintro secret later clean ⟨sought, alsoGood⟩
      refine prudent_pure clean ⟨sought.looking, ?_⟩
      intro complete
      obtain ⟨noAccount, noSecret⟩ := List.append_eq_nil_iff.mp complete
      have answered := alsoGood (Option.toList_eq_nil_iff.mp noSecret)
        (good (Option.toList_eq_nil_iff.mp noAccount) (List.forall_mem_nil _))
      exact ⟨sought.sought, fun exchange told _ _ _ => answered exchange told, sought.looking.unwritten⟩

/-- Ensuring what the workspace needs is prudent; once it succeeds each was heard of. -/
theorem prudent_ensureAll {resources : List (Key × Json)} (past : List Key)
    (needed : ∀ resource ∈ resources, resource ∈ workspace.dependents settings space owner)
    (clean : Clean Exchange.fatal? heard) (provided : workspace.Provided space heard)
    (secured : ∀ key ∈ past, ∃ exchange ∈ heard, Secures key exchange) :
    Prudent Exchange.fatal? (workspace.Sends settings now space)
      (fun _ later => workspace.Provided space later ∧
        ∀ key ∈ past ++ resources.map Prod.fst, ∃ exchange ∈ later, Secures key exchange)
      (ensureAll resources) heard := by
  induction resources generalizing heard past with
  | nil => exact prudent_pure clean ⟨provided, by simpa using secured⟩
  | cons resource rest inductionHypothesis =>
      obtain ⟨dependent, others⟩ := List.forall_mem_cons.mp needed
      have place := mem_resources_of_mem_dependents dependent
      refine Prudent.bind (fun _ later => workspace.Provided space later ∧
        ∀ key ∈ past ++ [resource.1], ∃ exchange ∈ later, Secures key exchange) ?_ ?_
      · have more {exchange : Exchange} {later : List Exchange} (secures : Secures resource.1 exchange)
            (kept : ∀ told ∈ heard, told ∈ later) :
            ∀ key ∈ past ++ [resource.1], ∃ told ∈ exchange :: later, Secures key told := by
          intro key told
          rcases List.mem_append.mp told with earlier | now'
          · obtain ⟨given, member, shows⟩ := secured key earlier
            exact ⟨given, List.mem_cons_of_mem _ (kept given member), shows⟩
          · cases List.mem_singleton.mp now'
            exact ⟨exchange, List.mem_cons_self, secures⟩
        refine prudent_ensure clean (createdKey_dependents dependent) (.checks place provided)
          (fun reply => .creates dependent (provided.ensuring dependent (Or.inl rfl))) ?_ (fun _ => rfl) ?_ ?_
        · intro reply
          have other : ¬ (resource.1.kind = .serviceAccount ∨ resource.1.kind = .secret) :=
            not_or.mpr ⟨kind_ne_of_mem_resources place (by decide), kind_ne_of_mem_resources place (by decide)⟩
          simp only [Exchange.fatal?, other, if_false]
        · exact fun json => ⟨provided.ensuring dependent (Or.inl rfl), more (.there json) fun _ told => told⟩
        · intro fault exchange secures asked
          exact ⟨(provided.ensuring dependent (Or.inl rfl)).ensuring dependent (Or.inr asked),
            more secures fun _ told => List.mem_cons_of_mem _ told⟩
      · rintro _ later clean ⟨provided, secured⟩
        rw [List.map_cons, List.append_cons]
        exact inductionHypothesis (past ++ [resource.1]) others clean provided secured

/-- An observation is prudent, and it is what was heard. -/
theorem prudent_observe (workspace : Workspace) (settings : Settings) (now space : String) :
    Prudent Exchange.fatal? (workspace.Sends settings now space)
      (fun observation later => workspace.Observed space later observation)
      (workspace.observe settings space) [] := by
  refine Prudent.bind _ (workspace.prudent_missingPrerequisites settings now space) ?_
  rintro missing heard clean ⟨looking, provided⟩
  split
  · rename_i nothing
    cases List.isEmpty_iff.mp nothing
    rw [ensureResources_eq]
    split
    · refine Prudent.bind (fun _ _ => False) (prudent_fail clean _) ?_
      intro _ _ _ impossible
      exact impossible.elim
    · refine Prudent.bind _ (prudent_ensureAll [] (fun _ needed => needed) clean (provided rfl)
        (List.forall_mem_nil _)) ?_
      rintro _ later clean ⟨provided, secured⟩
      refine Prudent.bind (fun pending later => workspace.Observed space later { pending }) ?_
        fun _ _ clean observed => prudent_pure clean observed
      refine Prudent.bind (fun runs later => workspace.Observed space later { pending := pendingNames runs }) ?_
        fun _ _ clean observed => prudent_pure clean observed
      refine prudent_require clean (.lists provided) (fun _ => rfl) ?_
      intro json runs read
      refine .complete (provided.cons (fun _ _ => Request.noConfusion) Request.Verb.noConfusion) ?_
        List.mem_cons_self read
      intro key needed
      obtain ⟨exchange, told, secures⟩ := secured key needed
      exact ⟨exchange, List.mem_cons_of_mem _ told, secures⟩
  · rename_i something
    exact prudent_pure clean (.lacking (fun none => something (List.isEmpty_iff.mpr none)) looking)

/-- A reconciliation is prudent: it sends what it may send with what it has heard, and a fatal reply ends it. -/
theorem prudent_reconcile (workspace : Workspace) (settings : Settings) (now space : String) :
    Prudent Exchange.fatal? (workspace.Sends settings now space) (fun _ _ => True)
      (workspace.reconcile now settings space) [] := by
  refine Prudent.bind _ (workspace.prudent_observe settings now space) ?_
  intro observation heard clean observed
  split
  · exact prudent_pure clean trivial
  · rename_i status planned
    exact prudent_require clean (.writes observed planned) (fun _ => rfl) fun _ _ _ => trivial

end Workspace

end Turnstile
