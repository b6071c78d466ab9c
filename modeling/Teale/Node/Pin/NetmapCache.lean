import Teale.Node.Pin.Manager

/-!
# Netmaps in memory and on disk

The manager keeps a netmap in its entry of the network and in the file of the network. A network
that the gateway lists no more loses its entry and keeps its file.
-/

namespace Teale.Node.Pin

open Relational Transactional Protocol List Option Relational.Table

variable {J : Type} {manager : PinManager J} {trust : Trust} {membership : PinMembership}
  {reply : Reply J} {check : SignatureCheck} {now : ℤ} {dataDir : DataDir}
  {state : Table String (PinState J)} {pinId : String}

/-! ## Actions -/

/-- What changes a manager: the gateway lists the networks of the device, it
answers for one of them, or the process starts again. -/
inductive Action (J : Type)
  | listing (memberships : List PinMembership) (bearer : Bool)
  | reply (membership : PinMembership) (answer : Reply J)
  | restart (now : ℤ) (entries : List String)

namespace Action

def apply (trust : Trust) (manager : PinManager J) : Action J → PinManager J
  | .listing memberships bearer =>
    if bearer then manager.prune memberships else manager
  | .reply membership answer => (manager.syncNetwork trust.check membership answer).1
  | .restart now entries => PinManager.new trust now entries manager.dataDir

end Action

namespace PinManager

theorem syncAll_eq_run (trust : Trust) (manager : PinManager J)
    (replies : List (PinMembership × Reply J)) : ∃ answered, answered <+: replies ∧
      (manager.syncAll trust.check replies).1 = run (Action.apply trust) manager
          (answered.map fun pair => .reply pair.1 pair.2) := by
  induction replies generalizing manager with
  | nil => exact ⟨[], prefix_refl _, rfl⟩
  | cons head rest ih =>
    obtain ⟨membership, reply⟩ := head
    rw [syncAll]
    cases turn : manager.syncNetwork trust.check membership reply with
    | mk next result =>
      have applied : Action.apply trust manager (.reply membership reply) =
          next := by
        rw [Action.apply, turn]
      cases result with
      | error failure =>
        refine ⟨[(membership, reply)], ?_, applied.symm⟩
        exact prefix_append [(membership, reply)] rest
      | ok _ =>
        obtain ⟨answered, isPrefix, runs⟩ := ih next
        refine ⟨(membership, reply) :: answered, ?_, ?_⟩
        · exact (prefix_cons_inj _).mpr isPrefix
        · rw [map_cons, run_cons, applied]
          exact runs

/-- A sync round is a listing followed by the replies up to the first error. -/
theorem syncOnce_eq_run (trust : Trust) (manager : PinManager J)
    (replies : List (PinMembership × Reply J)) (bearer : Bool) : ∃ answered, answered <+: replies ∧
      (manager.syncOnce trust.check (some replies) bearer).1 = run (Action.apply trust) manager
          (.listing (replies.map Prod.fst) bearer ::
            answered.map fun pair => .reply pair.1 pair.2) := by
  cases bearer with
  | false => exact ⟨[], nil_prefix, rfl⟩
  | true => exact syncAll_eq_run trust (manager.prune (replies.map Prod.fst)) replies

/-! ## What an action changes -/

@[simp] theorem dataDir_record (manager : PinManager J) (membership : PinMembership)
    (response : SyncResponse J) :
    (manager.record membership response).dataDir = manager.dataDir := rfl

theorem find?_record (manager : PinManager J) (membership : PinMembership)
    (response : SyncResponse J) (pinId : String) : ∃ entry : PinState J,
      entry.membership = response.membership ∧ entry.netmap =
        (manager.state.find? membership.pinId).bind PinState.netmap ∧
      (manager.record membership response).state.find? pinId =
        if pinId = membership.pinId then some entry
        else manager.state.find? pinId := by
  refine ⟨_, rfl, ?_, manager.state.find?_upsert membership.pinId pinId _⟩
  cases manager.state.find? membership.pinId <;> rfl

/-- An answer leaves the netmaps as they were, or stores one under the network it
is for. -/
theorem syncNetwork_cases (check : SignatureCheck) (manager : PinManager J)
    (membership : PinMembership) (reply : Reply J) :
    (reply.response = none ∧ (manager.syncNetwork check membership reply).1 = manager) ∨
    ∃ response, reply.response = some response ∧
      ((manager.syncNetwork check membership reply).1.state =
          (manager.record membership response).state ∧
        (manager.syncNetwork check membership reply).1.dataDir.netmaps = manager.dataDir.netmaps ∨
      ∃ signed, response.netmap = some signed ∧
        (manager.syncNetwork check membership reply).2 = .ok () ∧
        (manager.syncNetwork check membership reply).1.state =
          (manager.record membership response).state.modify membership.pinId
            (fun entry => { entry with netmap := some signed }) ∧
        (manager.syncNetwork check membership reply).1.dataDir.netmaps =
          manager.dataDir.netmaps.upsert membership.pinId signed) := by
  rw [syncNetwork]
  split
  · next absent => exact Or.inl ⟨absent, rfl⟩
  · next response answered =>
      refine Or.inr ⟨response, answered, ?_⟩
      split
      · exact Or.inl ⟨rfl, rfl⟩
      · next signed carried =>
          dsimp only
          rcases acceptNetmap_cases check (manager.record membership response)
            reply.writes reply.now membership.pinId signed with
            result | ⟨key, pinned, pins, ⟨failure, result⟩ | ⟨_, _, result⟩⟩
          · rw [result]
            exact Or.inl ⟨rfl, rfl⟩
          · obtain ⟨_, sameState, sameFiles⟩ := pinGatewayKey_ok pins
            rw [result]
            exact Or.inl ⟨sameState, sameFiles⟩
          · obtain ⟨_, sameState, sameFiles⟩ := pinGatewayKey_ok pins
            rw [result]
            refine Or.inr ⟨signed, carried, rfl, ?_, ?_⟩
            · rw [← sameState]
              rfl
            · rw [← dataDir_record manager membership response, ← sameFiles]
              rfl

/-! ## Soundness of the cache -/

def stored (manager : PinManager J) (pinId : String) : Option SignedPinNetmap :=
  (manager.state.find? pinId).bind PinState.netmap

def Backed (files : Table String SignedPinNetmap) (state : Table String (PinState J)) : Prop :=
  ∀ pinId signed, (state.find? pinId).bind PinState.netmap = some signed →
    files.find? pinId = some signed

/-- A file holds a netmap of its network, and the netmap in memory is the one in
the file. -/
structure Sound (manager : PinManager J) : Prop where
  files : ∀ pinId signed, manager.dataDir.netmaps.find? pinId = some signed →
    signed.netmap.pinId = pinId
  memory : Backed manager.dataDir.netmaps manager.state

def Advances (before after : Table String SignedPinNetmap) : Prop :=
  ∀ pinId old, before.find? pinId = some old → ∃ new, after.find? pinId = some new ∧
      old.netmap.generation ≤ new.netmap.generation

theorem Advances.refl (files : Table String SignedPinNetmap) : Advances files files :=
  fun _ old found => ⟨old, found, le_refl _⟩

theorem Advances.trans {first second third : Table String SignedPinNetmap}
    (left : Advances first second) (right : Advances second third) : Advances first third := by
  intro pinId old found
  obtain ⟨middle, foundMiddle, rises⟩ := left pinId old found
  obtain ⟨new, foundNew, risesMore⟩ := right pinId middle foundMiddle
  exact ⟨new, foundNew, rises.trans risesMore⟩

end PinManager

/-- Every netmap that is accepted is of the network that was asked for, and is
not of an earlier generation than the netmap in the file of the network. -/
def Action.InOrder (trust : Trust) (manager : PinManager J) : Action J → Prop
  | .reply membership answer => ∀ response signed,
      answer.response = some response → response.netmap = some signed →
      (manager.syncNetwork trust.check membership answer).2 = .ok () →
        signed.netmap.pinId = membership.pinId ∧
        ∀ cached, manager.dataDir.netmaps.find? membership.pinId = some cached →
          cached.netmap.generation ≤ signed.netmap.generation
  | _ => True

namespace PinManager

theorem stored_record (manager : PinManager J) (membership : PinMembership)
    (response : SyncResponse J) (pinId : String) :
    (manager.record membership response).stored pinId = manager.stored pinId := by
  obtain ⟨entry, _, sameNetmap, found⟩ := manager.find?_record membership response pinId
  rw [stored, found, stored]
  split
  · next same =>
      subst same
      exact sameNetmap
  · rfl

theorem Sound.prune (sound : manager.Sound)
    (memberships : List PinMembership) : (manager.prune memberships).Sound where
  files := sound.files
  memory := by
    intro pinId signed isStored
    obtain ⟨entry, found, cached⟩ := bind_eq_some_iff.mp isStored
    apply sound.memory
    rw [find?_deleteWhere_eq_some found]
    exact cached

theorem Sound.syncNetwork (sound : manager.Sound)
    (inOrder : Action.InOrder trust manager (.reply membership reply)) :
    (manager.syncNetwork trust.check membership reply).1.Sound ∧ Advances manager.dataDir.netmaps
        (manager.syncNetwork trust.check membership reply).1.dataDir.netmaps := by
  rcases syncNetwork_cases trust.check manager membership reply with
    ⟨_, same⟩ | ⟨response, answered, ⟨sameState, sameFiles⟩ |
      ⟨signed, carried, accepted, newState, newFiles⟩⟩
  · rw [same]
    exact ⟨sound, .refl _⟩
  · rw [sameFiles]
    refine ⟨⟨?_, ?_⟩, .refl _⟩
    · rw [sameFiles]
      exact sound.files
    · intro pinId cached isStored
      rw [sameFiles]
      apply sound.memory
      rw [sameState] at isStored
      exact (manager.stored_record membership response pinId).symm.trans isStored
  · obtain ⟨rightNetwork, notOlder⟩ := inOrder response signed answered carried accepted
    rw [newFiles]
    refine ⟨⟨?_, ?_⟩, ?_⟩
    · intro pinId cached found
      rw [newFiles, find?_upsert] at found
      split at found
      · next same =>
          cases found
          rw [rightNetwork, same]
      · exact sound.files pinId cached found
    · intro pinId cached isStored
      rw [newFiles, find?_upsert]
      rw [newState, find?_modify] at isStored
      split at isStored
      · next same =>
          rw [if_pos same]
          obtain ⟨entry, found, isCached⟩ := bind_eq_some_iff.mp isStored
          obtain ⟨_, _, rfl⟩ := map_eq_some_iff.mp found
          exact isCached
      · next other =>
          rw [if_neg other]
          apply sound.memory
          exact (manager.stored_record membership response pinId).symm.trans isStored
    · intro pinId old found
      rw [find?_upsert]
      split
      · next same =>
          subst same
          exact ⟨signed, rfl, notOlder old found⟩
      · exact ⟨old, found, le_refl _⟩

theorem Backed.loadEntry {pinned : String} (directory : String)
    (files : ∀ pinId signed, dataDir.netmaps.find? pinId = some signed →
      signed.netmap.pinId = pinId) (backed : Backed dataDir.netmaps state) : Backed dataDir.netmaps
      (loadEntry check pinned now dataDir state directory) := by
  rw [PinManager.loadEntry]
  split
  · exact backed
  · next file found =>
      split
      · intro pinId signed cached
        rw [find?_upsert] at cached
        split at cached
        · next same =>
            cases cached
            rw [same, files directory file found]
            exact found
        · exact backed pinId signed cached
      · exact backed

theorem sound_new (trust : Trust) (now : ℤ) (entries : List String)
    (files : ∀ pinId signed, dataDir.netmaps.find? pinId = some signed →
      signed.netmap.pinId = pinId) : (new trust now entries dataDir : PinManager J).Sound := by
  have nothing : Backed dataDir.netmaps (∅ : Table String (PinState J)) := by
    intro pinId signed cached
    simp at cached
  refine ⟨files, ?_⟩
  rw [new]
  split
  · exact nothing
  · next pinned _ =>
      exact foldl_preserves (Backed dataDir.netmaps)
        (fun _ directory _ backed => backed.loadEntry directory files) nothing

theorem Sound.apply {action : Action J}
    (sound : manager.Sound) (inOrder : action.InOrder trust manager) :
    (action.apply trust manager).Sound ∧ Advances manager.dataDir.netmaps
        (action.apply trust manager).dataDir.netmaps := by
  cases action with
  | listing memberships bearer =>
    cases bearer with
    | false => exact ⟨sound, .refl _⟩
    | true => exact ⟨sound.prune memberships, .refl _⟩
  | reply membership reply => exact sound.syncNetwork inOrder
  | restart now entries => exact ⟨sound_new trust now entries sound.files, .refl _⟩

theorem Sound.run {actions : List (Action J)} (sound : manager.Sound)
    (inOrder : Admissible (Action.InOrder trust) (Action.apply trust) manager actions) :
    (run (Action.apply trust) manager actions).Sound ∧ Advances manager.dataDir.netmaps
        (run (Action.apply trust) manager actions).dataDir.netmaps := by
  induction actions generalizing manager with
  | nil => exact ⟨sound, .refl _⟩
  | cons action actions ih =>
    obtain ⟨now, later⟩ := inOrder
    obtain ⟨soundNext, advances⟩ := sound.apply now
    obtain ⟨soundLast, advancesMore⟩ := ih soundNext later
    exact ⟨soundLast, advances.trans advancesMore⟩

def gatewayTrust : Trust := ⟨repeatCheck, some (repeatedKey 7)⟩

def issued (pinId : String) (generation issuedAt : ℤ) : SignedPinNetmap :=
  signedBy 7 7 pinId generation issuedAt

def activeReply (pinId : String) (generation issuedAt : ℤ) : Action Unit :=
  .reply ⟨"n", "lab", "active"⟩
    ⟨some { membership := "active"
            netmap := some (issued pinId generation issuedAt) }, issuedAt, {}⟩

theorem apply_activeReply {manager : PinManager Unit}
    (pinned : manager.pinnedGatewayKey = some (repeatedKey 7)) (pinId : String)
    (generation issuedAt : ℤ) : (activeReply pinId generation issuedAt).apply gatewayTrust manager =
      (manager.record ⟨"n", "lab", "active"⟩
        { membership := "active"
          netmap := some (issued pinId generation issuedAt) }).store "n"
            (issued pinId generation issuedAt) := by
  have recent : (signedBy 7 7 pinId generation issuedAt).isStale issuedAt = false := by
    simp [SignedPinNetmap.isStale, signedBy, netmapMaxAgeSeconds]
  exact congrArg Prod.fst (syncNetwork_signedBy ⟨"n", "lab", "active"⟩ pinned rfl recent)

theorem stored_activeReply (manager : PinManager Unit)
    (pinned : manager.pinnedGatewayKey = some (repeatedKey 7)) (pinId : String)
    (generation issuedAt : ℤ) :
    let answered := (activeReply pinId generation issuedAt).apply gatewayTrust
      manager
    answered.pinnedGatewayKey = some (repeatedKey 7) ∧
      answered.stored "n" = some (issued pinId generation issuedAt) ∧
      answered.dataDir.netmaps.find? "n" = some (issued pinId generation issuedAt) := by
  intro answered
  have isAnswered : answered = _ := apply_activeReply pinned pinId generation issuedAt
  rw [isAnswered]
  refine ⟨pinned, ?_, ?_⟩
  · simp only [stored, store, record, find?_modify_self,
      find?_upsert, if_true, map_some, bind_some]
  · simp only [store, find?_upsert, if_true]

/-- The manager after its first answer, with the netmap that lists the key
`aa`. -/
def memberManager : PinManager Unit where
  pinnedGatewayKey := some (repeatedKey 7)
  state := (∅ : Table String (PinState Unit)).upsert "n"
    ⟨"n", "lab", "active", some (issued "n" 1 100), none, []⟩
  dataDir :=
    { netmaps := (∅ : Table String SignedPinNetmap).upsert "n"
        (issued "n" 1 100) }

theorem apply_activeReply_new :
    (activeReply "n" 1 100).apply gatewayTrust (new gatewayTrust 100 [] {}) = memberManager :=
  apply_activeReply rfl "n" 1 100

theorem restart_memberManager :
    (Action.restart 150 ["n"] : Action Unit).apply gatewayTrust memberManager = memberManager := by
  have verified : (issued "n" 1 100).verify repeatCheck (repeatedKey 7) = true :=
    verify_signedBy 7 7 "n" 1 100
  have recent : (issued "n" 1 100).isStale 150 = false := by decide
  have file : memberManager.dataDir.netmaps.find? "n" = some (issued "n" 1 100) := rfl
  have loaded : loadEntry gatewayTrust.check (repeatedKey 7) 150
      memberManager.dataDir (∅ : Table String (PinState Unit)) "n" = memberManager.state := by
    rw [gatewayTrust, loadEntry, file]
    simp only [verified, recent, Bool.not_false, Bool.and_true, if_true]
    rfl
  have key : startingKey gatewayTrust memberManager.dataDir = some (repeatedKey 7) := rfl
  rw [Action.apply, new, key]
  simp only [foldl_cons, foldl_nil, loaded]
  rfl

/-- Three answers with valid signatures, from any manager of the gateway: the
netmap of an earlier generation replaces the later one, and that of another
network is stored under `n`. -/
theorem stored_activeReplies (start : PinManager Unit)
    (pinned : start.pinnedGatewayKey = some (repeatedKey 7)) :
    let newer := (activeReply "n" 2 200).apply gatewayTrust start
    let older := (activeReply "n" 1 100).apply gatewayTrust newer
    let foreign := (activeReply "m" 3 300).apply gatewayTrust older
    newer.stored "n" = some (issued "n" 2 200) ∧ older.stored "n" = some (issued "n" 1 100) ∧
      foreign.stored "n" = some (issued "m" 3 300) := by
  intro newer older foreign
  obtain ⟨newerPinned, newerStored, _⟩ := stored_activeReply start pinned "n" 2 200
  obtain ⟨olderPinned, olderStored, _⟩ := stored_activeReply newer newerPinned "n" 1 100
  obtain ⟨_, foreignStored, _⟩ := stored_activeReply older olderPinned "m" 3 300
  exact ⟨newerStored, olderStored, foreignStored⟩

end PinManager

/-! ## Networks the device was removed from -/

/-- The gateway says that the device is no active member of the network. -/
def Action.Tells (pinId : String) : Action J → Prop
  | .listing memberships _ => pinId ∉ memberships.map PinMembership.pinId
  | .reply membership answer => membership.pinId = pinId ∧
      ∃ response, answer.response = some response ∧ response.membership ≠ "active"
  | .restart .. => False

/-- The gateway says that the device is an active member of the network. -/
def Action.ReportsActive (pinId : String) : Action J → Prop
  | .reply membership answer => membership.pinId = pinId ∧
      ∃ response, answer.response = some response ∧ response.membership = "active"
  | _ => False

/-- A restart finds no netmap of the network that verifies and is recent. -/
def Action.LoadsNone (trust : Trust) (pinId : String) (manager : PinManager J) : Action J → Prop
  | .restart now entries => ∀ key directory signed,
      PinManager.startingKey trust manager.dataDir = some key →
      directory ∈ entries →
      manager.dataDir.netmaps.find? directory = some signed →
      signed.netmap.pinId = pinId →
        ¬ (signed.verify trust.check key = true ∧ signed.isStale now = false)
  | _ => True

namespace PinManager

def Closed (pinId : String) (state : Table String (PinState J)) : Prop :=
  ∀ entry, state.find? pinId = some entry → entry.membership ≠ "active"

theorem Closed.prune (closed : Closed pinId manager.state) (memberships : List PinMembership) :
    Closed pinId (manager.prune memberships).state :=
  fun entry found => closed entry (find?_deleteWhere_eq_some found)

theorem Closed.record
    {response : SyncResponse J} (closed : pinId ≠ membership.pinId → Closed pinId manager.state)
    (inactive : pinId = membership.pinId → response.membership ≠ "active") :
    Closed pinId (manager.record membership response).state := by
  intro entry found
  obtain ⟨written, isMembership, _, lookup⟩ := manager.find?_record membership response pinId
  rw [lookup] at found
  split at found
  · next same =>
      cases found
      rw [isMembership]
      exact inactive same
  · next other => exact closed other entry found

theorem Closed.setNetmap (closed : Closed pinId state) :
    Closed pinId (state.modify network fun entry => { entry with netmap := some signed }) := by
  intro entry found
  rcases find?_modify_eq_some found with old | ⟨old, present, same, rfl⟩
  · exact closed entry old
  · subst same
    exact closed old present

theorem Closed.syncNetwork (unanswered : reply.response = none → Closed pinId manager.state)
    (recorded : ∀ response, reply.response = some response →
      Closed pinId (manager.record membership response).state) :
    Closed pinId (manager.syncNetwork check membership reply).1.state := by
  rcases syncNetwork_cases check manager membership reply with
    ⟨absent, same⟩ | ⟨response, answered, ⟨sameState, _⟩ | ⟨signed, _, _, newState, _⟩⟩
  · rw [same]
    exact unanswered absent
  · rw [sameState]
    exact recorded response answered
  · rw [newState]
    exact (recorded response answered).setNetmap

theorem closed_of_told (trust : Trust) (manager : PinManager J)
    {telling : Action J} (told : telling.Tells pinId)
    (heeded : ∀ memberships bearer, telling = .listing memberships bearer → bearer = true) :
    Closed pinId (telling.apply trust manager).state := by
  cases telling with
  | listing memberships bearer =>
    obtain rfl := heeded memberships bearer rfl
    intro entry found
    have kept := (find?_deleteWhere manager.state _ pinId).symm.trans found
    rw [filter_eq_some_iff] at kept
    have unlisted : pinId ∉ memberships.map PinMembership.pinId := told
    simp only [Bool.not_not, contains_iff_mem] at kept
    exact absurd kept.2 unlisted
  | reply membership answer =>
    obtain ⟨same, response, answered, inactive⟩ := told
    apply Closed.syncNetwork
    · intro absent
      rw [answered] at absent
      cases absent
    · intro other isOther
      rw [answered] at isOther
      cases isOther
      exact Closed.record (fun different => absurd same.symm different) fun _ => inactive
  | restart now entries => exact absurd told id

theorem Closed.loadEntry {key : String} {directory : String}
    (unloaded : ∀ signed, dataDir.netmaps.find? directory = some signed →
      signed.netmap.pinId = pinId → ¬ (signed.verify check key = true ∧ signed.isStale now = false))
    (closed : Closed pinId state) :
    Closed pinId (loadEntry check key now dataDir state directory) := by
  rw [PinManager.loadEntry]
  split
  · exact closed
  · next signed file =>
      split
      · next loaded =>
          intro entry found
          rw [find?_upsert] at found
          split at found
          · next same =>
              simp only [Bool.and_eq_true, Bool.not_eq_true'] at loaded
              exact absurd loaded (unloaded signed file same.symm)
          · exact closed entry found
      · exact closed

theorem Closed.apply {action : Action J} (closed : Closed pinId manager.state)
    (silent : ¬ action.ReportsActive pinId) (unloaded : action.LoadsNone trust pinId manager) :
    Closed pinId (action.apply trust manager).state := by
  cases action with
  | listing memberships bearer =>
    cases bearer with
    | false => exact closed
    | true => exact closed.prune memberships
  | reply membership answer =>
    apply Closed.syncNetwork
    · exact fun _ => closed
    · intro response answered
      apply Closed.record
      · exact fun _ => closed
      · intro same isActive
        exact silent ⟨same.symm, response, answered, isActive⟩
  | restart now entries =>
    have nothing : Closed pinId (∅ : Table String (PinState J)) := by
      intro entry found
      simp at found
    rw [Action.apply, new]
    split
    · exact nothing
    · next key pinned =>
        refine foldl_preserves (Closed pinId) ?_ nothing
        intro state directory listed closed
        exact closed.loadEntry fun signed file same =>
          unloaded key directory signed pinned listed file same

end PinManager

end Teale.Node.Pin
