/-
Module: Turnstile.Proofs.Run.Joining
Purpose: In every interleaving of adoptions a payload keeps its owners and gains each run once.
Main exports: Joining.Permits, Joining.heeds_adoptPayload, Joining.World, Joining.Step, Joining.Reachable,
  Joining.Tally, Joining.Sound, Joining.Kept, Joining.kept_of_reachable
-/
import Turnstile.Proofs.Cluster.Heard
import Turnstile.Proofs.Cluster.History
import Turnstile.Proofs.Run.Ownership

/-!
An adoption sets the whole list of owners that it has read, with its run at the end.  No owner is lost, since the
list is only accepted for the version that was read: an object that still has this version is the one that was
read.  What is read may be outdated when the list is sent; then the server refuses it, and the adoption fails and is
tried again.
-/

namespace Turnstile.Joining

open Cluster

/-! ### What an adoption asks for -/

/-- An adoption looks up its payload, and then asks to be set behind the owners that it has read, if it is none of
them. -/
inductive Permits (run : Run) (space : String) : List Exchange → Request → Prop where
  | look : Permits run space [] (.get ⟨.configMap, space, run.spec.configMap⟩)
  | join {json : Json} {metadata : Metadata} {owner : OwnerReference}
      (read : Run.payloadMetadata? json = some metadata) (disowned : ¬ run.Owns metadata)
      (known : run.controllerReference? = some owner) :
      Permits run space [⟨.get ⟨.configMap, space, run.spec.configMap⟩, .ok json⟩]
        (.patch ⟨.configMap, space, metadata.displayName⟩
          (Run.ownersPatch metadata (Run.withOwner metadata.owners owner)))

/-- What an adoption that has succeeded has heard: that there is no payload, that it is an owner, or that it was
set. -/
inductive Settled (run : Run) (space : String) : List Exchange → Prop where
  | missing {error : ApiError} (denied : error.saysNotFound = true) :
      Settled run space [⟨.get ⟨.configMap, space, run.spec.configMap⟩, .error error⟩]
  | owned {json : Json} {metadata : Metadata} (read : Run.payloadMetadata? json = some metadata)
      (owns : run.Owns metadata) :
      Settled run space [⟨.get ⟨.configMap, space, run.spec.configMap⟩, .ok json⟩]
  | joined {heard : List Exchange} {request : Request} {json : Json} (permitted : Permits run space heard request)
      (writes : request.isWrite = true) : Settled run space (⟨request, .ok json⟩ :: heard)

/-- What an adoption has heard once its payload was looked up. -/
inductive Looked (run : Run) (space : String) : Option Metadata → List Exchange → Prop where
  | missing {error : ApiError} (denied : error.saysNotFound = true) :
      Looked run space none [⟨.get ⟨.configMap, space, run.spec.configMap⟩, .error error⟩]
  | found {json : Json} {metadata : Metadata} (read : Run.payloadMetadata? json = some metadata) :
      Looked run space (some metadata) [⟨.get ⟨.configMap, space, run.spec.configMap⟩, .ok json⟩]

/-- An adoption asks for what is permitted, and succeeds only if it is settled. -/
theorem heeds_adoptPayload (run : Run) (space : String) :
    Attempt.Heeds (Permits run space) (fun _ later => Settled run space later) (run.adoptPayload space) [] := by
  refine Attempt.Heeds.bind (fun found later => Looked run space found later)
    (Attempt.heeds_find? .look (fun _ _ read => .found read) fun _ denied => .missing denied) ?_
  intro found later looked
  cases looked with
  | missing denied => exact Attempt.heeds_pure (.missing denied)
  | @found json metadata read =>
      simp only [Run.adopt]
      split
      · exact Attempt.heeds_fail _
      · rename_i uid identity
        split
        · rename_i owned
          exact Attempt.heeds_pure (.owned read ⟨uid, identity, owned⟩)
        · rename_i unowned
          have disowned : ¬ run.Owns metadata := by
            rintro ⟨other, same, owned⟩
            cases identity.symm.trans same
            exact unowned owned
          split
          · exact Attempt.heeds_fail _
          · rename_i owner known
            exact Attempt.heeds_require (.join read disowned known)
              fun _ _ _ => .joined (.join read disowned known) rfl

/-! ### Worlds -/

/-- An adoption under way: whose it is, what it has heard, the latest first, and what is left to do. -/
structure Course where
  run : Run
  heard : List Exchange := []
  rest : Program (Except ReconcileFailure Unit)

/-- A cluster, and the adoptions that are under way. -/
structure World where
  cluster : Cluster
  courses : List Course := []

/-- How a world moves.  An adoption of any run that names the payload starts at any time, and again as often as one
likes; its requests are answered, refused, or answered and the answer lost; it may be given up.  Others ask for
what they like, but do not write the payload. -/
inductive Step (space name : String) : World → World → Prop where
  | outside {world : World} {request : Request}
      (spares : request.isWrite = true → request.key? ≠ some ⟨.configMap, space, name⟩) :
      Step space name world { world with cluster := (world.cluster.answer request).1 }
  | start {world : World} {run : Run} (names : run.spec.configMap = name) :
      Step space name world { world with courses := { run, rest := run.adoptPayload space } :: world.courses }
  | serve {cluster next : Cluster} {before after : List Course} {run : Run} {heard : List Exchange}
      {request : Request} {rest : Except ApiError Json → Program (Except ReconcileFailure Unit)}
      {reply : Except ApiError Json} (served : Reply cluster request next reply) :
      Step space name ⟨cluster, before ++ ⟨run, heard, .call request rest⟩ :: after⟩
        ⟨next, before ++ ⟨run, ⟨request, reply⟩ :: heard, rest reply⟩ :: after⟩
  | giveUp {cluster : Cluster} {before after : List Course} {course : Course} :
      Step space name ⟨cluster, before ++ course :: after⟩ ⟨cluster, before ++ after⟩

/-- The worlds that are reached from a cluster in which no adoption is under way. -/
inductive Reachable (space name : String) (origin : Cluster) : World → Prop where
  | start : Reachable space name origin { cluster := origin }
  | step {world next : World} (reachable : Reachable space name origin world) (step : Step space name world next) :
      Reachable space name origin next

/-! ### What is kept of a payload -/

/-- The payload can be read, and its owners are the first ones with the runs behind them that have joined since, each
of them once and none of them as a controller. -/
structure Tally (space name : String) (first : List OwnerReference) (cluster : Cluster) (object : Json)
    (metadata : Metadata) (added : List OwnerReference) : Prop where
  stored : cluster.find? ⟨.configMap, space, name⟩ = some object
  read : Run.payloadMetadata? object = some metadata
  named : metadata.name = some name
  owners : metadata.owners = first ++ added
  once : (added.map OwnerReference.uid).Nodup
  apart : ∀ reference ∈ added, reference.uid ∉ first.map OwnerReference.uid
  joined : ∀ reference ∈ added, ∃ (run : Run) (owner : OwnerReference), run.spec.configMap = name ∧
    run.controllerReference? = some owner ∧ reference = { owner with controller := none }

/-- What a cluster is to an object that was read of it: the object was stored not later than now, and is there still
if its version is.  Its owners are owners now. -/
structure Recalls (space name : String) (cluster : Cluster) (metadata : Metadata) (json : Json) : Prop where
  dated : ∃ version given, version ≤ cluster.version ∧ json = kept ⟨.configMap, space, name⟩ version given
  same : ∀ object, cluster.find? ⟨.configMap, space, name⟩ = some object →
    metadataText? object "resourceVersion" = metadataText? json "resourceVersion" → object = json
  named : ∀ seen, Run.payloadMetadata? json = some seen → seen.name = some name
  owners : ∀ seen, Run.payloadMetadata? json = some seen → seen.owners <+: metadata.owners

variable {space name : String} {run : Run} {first added : List OwnerReference} {cluster next : Cluster}
  {object json : Json} {metadata after : Metadata} {request : Request} {reply : Except ApiError Json}

/-- A run that owns the payload owns it also with more owners. -/
theorem owns_of_prefix (owns : run.Owns metadata) (grown : metadata.owners <+: after.owners) : run.Owns after := by
  obtain ⟨uid, identity, listed⟩ := owns
  obtain ⟨reference, member, same⟩ := List.any_eq_true.mp listed
  exact ⟨uid, identity, List.any_eq_true.mpr ⟨reference, grown.subset member, same⟩⟩

/-- What was read is recalled also after a request. -/
theorem Recalls.step (recalls : Recalls space name cluster metadata json) (effect : cluster.Effect request next)
    (grown : metadata.owners <+: after.owners) : Recalls space name next after json where
  dated := by
    obtain ⟨version, given, bound, same⟩ := recalls.dated
    exact ⟨version, given, Nat.le_trans bound effect.version_le, same⟩
  same := by
    intro object found equal
    rcases effect.find?_cases found with before | ⟨given, written, counted⟩
    · exact recalls.same object before equal
    · -- No object that was there before has the version that is reached now.
      obtain ⟨version, old, bound, same⟩ := recalls.dated
      rw [written, same, version_kept, version_kept] at equal
      have reached := version_injective (Option.some.inj equal)
      omega
  named := recalls.named
  owners := fun seen read => (recalls.owners seen read).trans grown

/-- What is read now is recalled. -/
theorem Tally.recalls (tally : Tally space name first cluster object metadata added) (dated : cluster.Dated) :
    Recalls space name cluster metadata object where
  dated := dated.dated _ _ tally.stored
  same := fun other found _ => Option.some.inj (found.symm.trans tally.stored)
  named := fun seen read => by
    cases read.symm.trans tally.read
    exact tally.named
  owners := fun seen read => by
    cases read.symm.trans tally.read
    exact List.prefix_refl _

/-- Owners are accepted only for the payload that was read, and then the run is the last of them. -/
theorem Tally.join {seen : Metadata} {owner : OwnerReference}
    (tally : Tally space name first cluster object metadata added)
    (recalls : Recalls space name cluster metadata json) (read : Run.payloadMetadata? json = some seen)
    (disowned : ¬ run.Owns seen) (known : run.controllerReference? = some owner) (names : run.spec.configMap = name)
    (fresh : isStale object (Run.ownersPatch seen (Run.withOwner seen.owners owner)) = false) :
    ∃ written after, Tally space name first (cluster.write ⟨.configMap, space, name⟩
        (object.mergePatch ((Run.ownersPatch seen (Run.withOwner seen.owners owner)).without "status")))
      written after (added ++ [{ owner with controller := none }]) ∧
      metadata.owners <+: after.owners ∧ run.Owns after := by
  obtain ⟨version, given, _, rfl⟩ := recalls.dated
  have guarded := Run.resourceVersion_kept read
  -- The payload has the version that was read, so it is what was read.
  have unchanged : object = kept ⟨.configMap, space, name⟩ version given := by
    refine recalls.same object tally.stored ?_
    rw [Run.isStale_ownersPatch guarded] at fresh
    rw [version_kept]
    simpa using fresh
  subst unchanged
  cases read.symm.trans tally.read
  obtain ⟨after, readAfter, named, owners⟩ := Run.payloadMetadata?_kept_owners tally.read (get?_kept_metadata _ _ _)
    (Json.object_ne_null _) guarded (Run.withOwner metadata.owners owner) space name (cluster.version + 1)
  have identity := Run.uid_of_controllerReference? known
  have fresh : owner.uid ∉ metadata.owners.map OwnerReference.uid := by
    intro member
    obtain ⟨reference, listed, same⟩ := List.mem_map.mp member
    exact disowned ⟨owner.uid, identity, List.any_eq_true.mpr ⟨reference, listed, beq_iff_eq.mpr same⟩⟩
  rw [tally.owners, List.map_append, List.mem_append, not_or] at fresh
  refine ⟨_, after, ⟨find?_write_self _ _ _, readAfter, named.trans tally.named, ?_, ?_, ?_, ?_⟩, ?_, ?_⟩
  · rw [owners, Run.withOwner, tally.owners, List.append_assoc]
  · rw [List.map_append, List.nodup_append']
    exact ⟨tally.once, List.nodup_singleton _, by simpa using fresh.2⟩
  · rw [List.forall_mem_append]
    exact ⟨tally.apart, by simpa using fresh.1⟩
  · rw [List.forall_mem_append, List.forall_mem_singleton]
    exact ⟨tally.joined, run, owner, names, known, rfl⟩
  · rw [owners]
    exact List.prefix_append _ _
  · refine ⟨owner.uid, identity, List.any_eq_true.mpr ⟨{ owner with controller := none }, ?_, beq_self_eq_true _⟩⟩
    show _ ∈ after.owners
    rw [owners]
    exact List.mem_append_right _ (List.mem_singleton_self _)

/-- A request that is permitted keeps the tally.  It loses no owner, and if it is a write that is answered well then
its run is an owner. -/
theorem Tally.serve (tally : Tally space name first cluster object metadata added) (names : run.spec.configMap = name)
    {heard : List Exchange} (permitted : Permits run space heard request)
    (recalls : ∀ json, ⟨.get ⟨.configMap, space, name⟩, .ok json⟩ ∈ heard → Recalls space name cluster metadata json)
    (served : Reply cluster request next reply) :
    ∃ written after joined, Tally space name first next written after joined ∧ metadata.owners <+: after.owners ∧
      ∀ json, reply = .ok json → request.isWrite = true → run.Owns after := by
  cases permitted with
  | look =>
      obtain ⟨rfl, _⟩ := served.of_get
      exact ⟨object, metadata, added, tally, List.prefix_refl _, fun _ _ impossible => Bool.noConfusion impossible⟩
  | @join json seen owner read disowned known =>
      subst names
      have recalled := recalls json (List.mem_singleton_self _)
      have goesBy : seen.displayName = run.spec.configMap := by
        rw [Metadata.displayName, recalled.named seen read]
        rfl
      rw [goesBy] at served
      have effect := served.effect
      generalize change : Run.ownersPatch seen (Run.withOwner seen.owners owner) = patch at served effect
      cases effect with
      | nothing =>
          refine ⟨object, metadata, added, tally, List.prefix_refl _, ?_⟩
          rintro json rfl writes
          exact absurd rfl (served.ne_of_ok rfl)
      | change present fresh =>
          cases present.symm.trans tally.stored
          rw [← change] at fresh ⊢
          obtain ⟨written, after, joined, grown, owns⟩ := tally.join recalled read disowned known rfl fresh
          exact ⟨written, after, _, joined, grown, fun _ _ _ => owns⟩

/-! ### What every adoption keeps -/

/-- An adoption keeps to what is permitted, recalls what it has read, and has found the payload; if it has set its run
among the owners, the run is an owner. -/
structure Sound (space name : String) (cluster : Cluster) (metadata : Metadata) (course : Course) : Prop where
  names : course.run.spec.configMap = name
  heeds : Attempt.Heeds (Permits course.run space) (fun _ heard => Settled course.run space heard) course.rest
    course.heard
  recalls : ∀ json, ⟨.get ⟨.configMap, space, name⟩, .ok json⟩ ∈ course.heard →
    Recalls space name cluster metadata json
  found : ∀ error : ApiError, ⟨.get ⟨.configMap, space, name⟩, .error error⟩ ∈ course.heard → error.saysNotFound = false
  joined : ∀ request json, ⟨request, .ok json⟩ ∈ course.heard → request.isWrite = true → course.run.Owns metadata

variable {course : Course}

theorem sound_start (names : run.spec.configMap = name) (cluster : Cluster) (metadata : Metadata) :
    Sound space name cluster metadata { run, rest := run.adoptPayload space } where
  names := names
  heeds := heeds_adoptPayload run space
  recalls := fun _ heard => by cases heard
  found := fun _ heard => by cases heard
  joined := fun _ _ heard => by cases heard

/-- A request of others leaves an adoption sound if no owner is lost. -/
theorem Sound.step (sound : Sound space name cluster metadata course) (effect : cluster.Effect request next)
    (grown : metadata.owners <+: after.owners) : Sound space name next after course where
  names := sound.names
  heeds := sound.heeds
  recalls := fun json heard => (sound.recalls json heard).step effect grown
  found := sound.found
  joined := fun request json heard writes => owns_of_prefix (sound.joined request json heard writes) grown

/-- An adoption stays sound when its request is served. -/
theorem Sound.serve {heard : List Exchange} {rest : Except ApiError Json → Program (Except ReconcileFailure Unit)}
    (sound : Sound space name cluster metadata ⟨run, heard, .call request rest⟩)
    (tally : Tally space name first cluster object metadata added) (dated : cluster.Dated)
    (served : Reply cluster request next reply) (grown : metadata.owners <+: after.owners)
    (owns : ∀ json, reply = .ok json → request.isWrite = true → run.Owns after) :
    Sound space name next after ⟨run, ⟨request, reply⟩ :: heard, rest reply⟩ where
  names := sound.names
  heeds := sound.heeds.2 reply
  recalls := by
    intro json member
    rcases List.mem_cons.mp member with here | there
    · cases here
      obtain ⟨rfl, ⟨object, found, same⟩ | ⟨_, impossible⟩ | ⟨_, _, impossible⟩⟩ := served.of_get
      · cases same
        cases found.symm.trans tally.stored
        exact (tally.recalls dated).step served.effect grown
      · cases impossible
      · cases impossible
    · exact (sound.recalls json there).step served.effect grown
  found := by
    intro error member
    rcases List.mem_cons.mp member with here | there
    · cases here
      obtain ⟨rfl, ⟨_, _, impossible⟩ | ⟨absent, _⟩ | ⟨_, honest, same⟩⟩ := served.of_get
      · cases impossible
      · cases absent.symm.trans tally.stored
      · cases same
        exact honest
    · exact sound.found error there
  joined := by
    intro other json member writes
    rcases List.mem_cons.mp member with here | there
    · cases here
      exact owns json rfl writes
    · exact owns_of_prefix (sound.joined other json there writes) grown

/-- An adoption that has succeeded leaves its run among the owners. -/
theorem Sound.owns (sound : Sound space name cluster metadata course) (finished : course.rest = .done (.ok ())) :
    course.run.Owns metadata := by
  obtain ⟨run, heard, rest⟩ := course
  cases finished
  have settled : Settled run space heard := sound.heeds () rfl
  have names : run.spec.configMap = name := sound.names
  subst names
  cases settled with
  | missing denied =>
      have found := sound.found _ (List.mem_singleton_self _)
      rw [found] at denied
      cases denied
  | owned read owns => exact owns_of_prefix owns ((sound.recalls _ (List.mem_singleton_self _)).owners _ read)
  | joined permitted writes => exact sound.joined _ _ List.mem_cons_self writes

/-- What holds of a world in which the payload is adopted. -/
structure Holds (space name : String) (first : List OwnerReference) (world : World) (object : Json)
    (metadata : Metadata) (added : List OwnerReference) : Prop where
  dated : world.cluster.Dated
  tally : Tally space name first world.cluster object metadata added
  sound : ∀ course ∈ world.courses, Sound space name world.cluster metadata course

/-- Every step keeps the tally and the soundness of the adoptions. -/
theorem Holds.step {world later : World} (holds : Holds space name first world object metadata added)
    (step : Step space name world later) :
    ∃ object metadata added, Holds space name first later object metadata added := by
  obtain ⟨dated, tally, sound⟩ := holds
  cases step with
  | @outside _ request spares =>
      have effect := effect_answer world.cluster request
      have same : (world.cluster.answer request).1.find? ⟨.configMap, space, name⟩ =
          world.cluster.find? ⟨.configMap, space, name⟩ := by
        cases writes : request.isWrite with
        | true => exact effect.find?_of_ne (spares writes)
        | false => rw [effect.eq_of_not_isWrite writes]
      exact ⟨object, metadata, added, effect.dated dated, { tally with stored := same.trans tally.stored },
        fun course member => (sound course member).step effect (List.prefix_refl _)⟩
  | start names =>
      exact ⟨object, metadata, added, dated, tally, List.forall_mem_cons.mpr ⟨sound_start names _ _, sound⟩⟩
  | @serve cluster next before after run heard request rest reply served =>
      have own := sound ⟨run, heard, .call request rest⟩ (by simp)
      obtain ⟨written, seen, joined, kept, grown, owns⟩ :=
        tally.serve own.names own.heeds.1 own.recalls served
      refine ⟨written, seen, joined, served.effect.dated dated, kept, ?_⟩
      intro course member
      simp only [List.mem_append, List.mem_cons] at member
      rcases member with earlier | rfl | later
      · exact (sound course (by simp [earlier])).step served.effect grown
      · exact own.serve tally dated served grown owns
      · exact (sound course (by simp [later])).step served.effect grown
  | giveUp =>
      refine ⟨object, metadata, added, dated, tally, fun course member => sound course ?_⟩
      simp only [List.mem_append, List.mem_cons] at member ⊢
      tauto

/-- What the adoptions of a payload come to. -/
structure Kept (space name : String) (first : List OwnerReference) (world : World) : Prop where
  /-- The first owners are all there as they were.  Behind them are runs, none of them twice and none of them that
  was an owner before, and none is set as a controller. -/
  grows : ∃ metadata added, world.cluster.payload? ⟨.configMap, space, name⟩ = some metadata ∧
    metadata.owners = first ++ added ∧ (added.map OwnerReference.uid).Nodup ∧
    ∀ reference ∈ added, reference.uid ∉ first.map OwnerReference.uid ∧ reference.controller = none ∧
      ∃ (run : Run) (owner : OwnerReference), run.spec.configMap = name ∧ run.controllerReference? = some owner ∧
        reference = { owner with controller := none }
  /-- A run whose adoption has succeeded is an owner. -/
  present : ∀ course ∈ world.courses, course.rest = .done (.ok ()) →
    ∃ metadata, world.cluster.payload? ⟨.configMap, space, name⟩ = some metadata ∧ course.run.Owns metadata
  /-- An adoption sends a patch only if it has read the payload, and the run was not among the owners. -/
  patches : ∀ course ∈ world.courses, ∀ request rest, course.rest = .call request rest → request.isWrite = true →
    ∃ json metadata, course.heard = [⟨.get ⟨.configMap, space, name⟩, .ok json⟩] ∧
      Run.payloadMetadata? json = some metadata ∧ ¬ course.run.Owns metadata

theorem Holds.kept {world : World} (holds : Holds space name first world object metadata added) :
    Kept space name first world where
  grows := by
    obtain ⟨_, tally, _⟩ := holds
    refine ⟨metadata, added, by rw [payload?, tally.stored]; exact tally.read, tally.owners, tally.once, ?_⟩
    intro reference member
    obtain ⟨run, owner, names, known, same⟩ := tally.joined reference member
    exact ⟨tally.apart reference member, by rw [same], run, owner, names, known, same⟩
  present := fun course member finished =>
    ⟨metadata, by rw [payload?, holds.tally.stored]; exact holds.tally.read, (holds.sound course member).owns finished⟩
  patches := by
    intro course member request rest waits writes
    have sound := holds.sound course member
    obtain ⟨run, heard, program⟩ := course
    cases waits
    have names : run.spec.configMap = name := sound.names
    subst names
    have permitted : Permits run space heard request := sound.heeds.1
    cases permitted with
    | look => cases writes
    | @join json seen owner read disowned known => exact ⟨json, seen, rfl, read, disowned⟩

/-- However adoptions of a payload come between each other, no owner is lost, every run is added once at most and not
as a controller, and it is an owner once its adoption has succeeded. -/
theorem kept_of_reachable {origin : Cluster} {world : World} (dated : origin.Dated)
    (stored : origin.find? ⟨.configMap, space, name⟩ = some object) (read : Run.payloadMetadata? object = some metadata)
    (named : metadata.name = some name) (reachable : Reachable space name origin world) :
    Kept space name metadata.owners world := by
  suffices holds : ∃ object after added, Holds space name metadata.owners world object after added by
    obtain ⟨_, _, _, holds⟩ := holds
    exact holds.kept
  induction reachable with
  | start =>
      exact ⟨object, metadata, [], dated,
        ⟨stored, read, named, (List.append_nil _).symm, List.nodup_nil, List.forall_mem_nil _, List.forall_mem_nil _⟩,
        List.forall_mem_nil _⟩
  | step reachable step inductionHypothesis =>
      obtain ⟨_, _, _, holds⟩ := inductionHypothesis
      exact holds.step step

/-! ### Two runs that share a payload -/

/-- Start to adopt the payload. -/
def World.adopting (world : World) (space : String) (run : Run) : World :=
  { world with courses := { run, rest := run.adoptPayload space } :: world.courses }

/-- Answer the next request of the adoption at a place. -/
def World.turn (world : World) (place : Nat) : World :=
  match world.courses[place]? with
  | some ⟨run, heard, .call request rest⟩ =>
    let (cluster, reply) := world.cluster.answer request
    ⟨cluster, world.courses.set place ⟨run, ⟨request, reply⟩ :: heard, rest reply⟩⟩
  | _ => world

theorem Reachable.adopting {origin : Cluster} {world : World} (reachable : Reachable space name origin world)
    (names : run.spec.configMap = name) : Reachable space name origin (world.adopting space run) :=
  reachable.step (.start names)

theorem Reachable.turn {origin : Cluster} {world : World} (reachable : Reachable space name origin world)
    (place : Nat) : Reachable space name origin (world.turn place) := by
  obtain ⟨cluster, courses⟩ := world
  unfold World.turn
  split
  · rename_i run heard request rest found
    obtain ⟨inside, same⟩ := List.getElem?_eq_some_iff.mp found
    have split : courses.take place ++ ⟨run, heard, .call request rest⟩ :: courses.drop (place + 1) = courses := by
      rw [← same, List.getElem_cons_drop, List.take_append_drop]
    have step : Step space name
        ⟨cluster, courses.take place ++ ⟨run, heard, .call request rest⟩ :: courses.drop (place + 1)⟩
        ⟨(cluster.answer request).1, courses.take place ++
          ⟨run, ⟨request, (cluster.answer request).2⟩ :: heard, rest (cluster.answer request).2⟩ ::
            courses.drop (place + 1)⟩ := .serve .answered
    rw [split] at step
    simp only [List.set_eq_take_append_cons_drop, if_pos inside]
    exact reachable.step step
  · exact reachable

/-- A payload of this name, which something else owns. -/
def submitted (owner : OwnerReference) : Request :=
  .create .configMap "team"
    (.object [("metadata", .object [("name", .string "payload"), ("ownerReferences", .array [owner.toJson])])])

/-- An owner that was there before. -/
def archiver : OwnerReference :=
  { apiVersion := "v1", kind := "Secret", name := "archiver", uid := "uid-archiver", controller := some true,
    blockOwnerDeletion := none }

/-- A run with this payload. -/
def sharing (name : String) : Run :=
  { metadata := { name := some name, uid := some ("uid-" ++ name) }
    spec :=
      { command := .plan, args := [], configMap := "payload", configMapKey := "payload.tar.gz", handshake := false,
        handshakeTimeoutSeconds := 30 }
    status := none }

/-- The cluster with the payload. -/
def shared : Cluster :=
  (Cluster.answer {} (submitted archiver)).1

/-- Both runs have read the payload when the first of them is set; so the second is refused, and tries again. -/
@[irreducible] def contended : World :=
  let read := ((({ cluster := shared : World }.adopting "team" (sharing "run-a")).adopting "team"
    (sharing "run-b")).turn 1).turn 0
  (((read.turn 1).turn 0).adopting "team" (sharing "run-b") |>.turn 0).turn 0

theorem reachable_contended : Reachable "team" "payload" shared contended := by
  have empty : Reachable "team" "payload" shared { cluster := shared } := .start
  have names (run : String) : (sharing run).spec.configMap = "payload" := rfl
  have read := (((empty.adopting (names "run-a")).adopting (names "run-b")).turn 1).turn 0
  rw [contended]
  exact ((((read.turn 1).turn 0).adopting (names "run-b")).turn 0).turn 0

/-- Whether the adoption has come to an end, and how. -/
def Course.ending? (course : Course) : Option Bool :=
  match course.rest with
  | .done (.ok _) => some true
  | .done (.error _) => some false
  | .call _ _ => none

/-- Both runs are owners in the end, although the second was refused at first. -/
theorem kept_of_reachable_contended : Kept "team" "payload" [archiver] contended ∧
    contended.courses.map Course.ending? = [some true, some false, some true] ∧
    (contended.cluster.payload? ⟨.configMap, "team", "payload"⟩).map
        (fun payload => payload.owners.map OwnerReference.uid) =
      some ["uid-archiver", "uid-run-a", "uid-run-b"] := by
  have seen : (shared.payload? ⟨.configMap, "team", "payload"⟩).any
      (fun payload => payload.name == some "payload" && payload.owners == [archiver]) = true := by
    decide +kernel
  obtain ⟨payload, found, fits⟩ := (Option.any_eq_true _ _).mp seen
  obtain ⟨object, stored, read⟩ := Option.bind_eq_some_iff.mp found
  simp only [Bool.and_eq_true, beq_iff_eq] at fits
  have kept := kept_of_reachable ((effect_answer {} (submitted archiver)).dated dated_empty) stored read fits.1
    reachable_contended
  rw [fits.2] at kept
  exact ⟨kept, by decide +kernel, by decide +kernel⟩

end Turnstile.Joining
