import Mathlib.Data.Multiset.Defs
import SmsActivate.Lib.Mirrors
import SmsActivate.Issued

set_option autoImplicit false

namespace SmsActivate

open SmsActivate.Lib

-- A part of what the client sees of the store, with the handler that reads it
-- again and the copy that the client keeps of it.
structure Copying (Value Copy : Type) where
  kind : ReadKind
  refresher : AckHandler
  held : Path → Store → Value
  found : ReadResult → Value
  copy : World → Copy
  shows : Copy → Value → Prop

section Copies

variable {Value Copy : Type} (c : Copying Value Copy) (user : Path)

def Copying.announces (ack : Write × Bool) : Bool := ack.2 && decide (ack.1.handler = c.refresher)

def Copying.wakes (write : Write) : Bool := decide (write.handler = c.refresher)

def Copying.reads (read : Read) : Bool := decide (read.kind = c.kind)

def Copying.mirror (w : World) : Mirror Value Copy where
  source := c.held user w.view
  notices := w.writes.countP c.wakes + w.acks.countP c.announces
  reads := w.reads.countP c.reads
  results := (w.results.filter (fun pair => c.reads pair.1)).map (fun pair => c.found pair.2)
  shown := c.copy w

structure Copying.Sound (spares : Write → Prop) : Prop where
  paired : (c.kind = .document ∧ c.refresher = .fetchUserBalance) ∨ (c.kind = .collection ∧ c.refresher = .fetchNumberPurchases)
  finds : ∀ user store (read : Read) result, read.kind = c.kind → read.Fetches user → serves store read result = true →
    result ≠ .failed → c.found result = c.held user store
  writes : ∀ user store after write, Issued user write → spares write → write.handler ≠ c.refresher →
    performWrite store write = some after → c.held user after = c.held user store
  delivers : ∀ w (read : Read) result next, read.kind = c.kind → step w (.deliver read result) = some next →
    c.shows (c.copy next) (c.found result)
  stays : ∀ w label next, step w label = some next → (∀ read result, label = .deliver read result → read.kind ≠ c.kind) →
    c.copy next = c.copy w

variable (spares : Write → Prop)

theorem mirror_still (w next : World) (store : next.store = w.store) (writes : next.writes = w.writes)
    (acks : next.acks = w.acks) (reads : next.reads = w.reads) (results : next.results = w.results)
    (copy : c.copy next = c.copy w) : MirrorMove c.shows (c.mirror user w) (c.mirror user next) := by
  have same : c.mirror user next = c.mirror user w := by
    simp only [Copying.mirror, World.view, store, writes, acks, reads, results, copy]
  rw [same]
  exact .still

theorem mirror_ask (w next : World) (fresh : List Read) (store : next.store = w.store) (writes : next.writes = w.writes)
    (acks : next.acks = w.acks) (reads : next.reads = w.reads ++ fresh) (results : next.results = w.results)
    (copy : c.copy next = c.copy w) : MirrorMove c.shows (c.mirror user w) (c.mirror user next) := by
  have asked : c.mirror user next =
      { c.mirror user w with reads := (c.mirror user w).reads + fresh.countP c.reads } := by
    simp only [Copying.mirror, World.view, store, writes, acks, reads, results, copy, List.countP_append]
  rw [asked]
  exact .ask _

theorem held_settled (sound : c.Sound spares) (store : Store) (fresh : List Write)
    (issued : ∀ write ∈ fresh, Issued user write ∧ spares write) (quiet : ∀ write ∈ fresh, ¬ c.wakes write = true) :
    c.held user (settle performWrite store fresh) = c.held user store := by
  apply settle_invariant performWrite (fun settled => c.held user settled = c.held user store) fresh _ store rfl
  intro settled write after member same performed
  obtain ⟨shape, spared⟩ := issued write member
  rw [← same]
  exact sound.writes user settled after write shape spared (fun wakes => quiet write member (decide_eq_true wakes)) performed

-- A write shows as soon as it is issued, and is a notice until it is
-- acknowledged.
theorem mirror_issued (sound : c.Sound spares) (w next : World) (fresh : List Write)
    (issued : ∀ write ∈ fresh, Issued user write ∧ spares write) (store : next.store = w.store)
    (writes : next.writes = w.writes ++ fresh) (acks : next.acks = w.acks) (reads : next.reads = w.reads)
    (results : next.results = w.results) (copy : c.copy next = c.copy w) :
    MirrorMove c.shows (c.mirror user w) (c.mirror user next) := by
  have view : next.view = settle performWrite w.view fresh := by
    rw [World.view, localView, store, writes, settle_append]
    rfl
  have counted : next.writes.countP c.wakes = w.writes.countP c.wakes + fresh.countP c.wakes := by
    rw [writes, List.countP_append]
  cases count : fresh.countP c.wakes with
  | zero =>
      have quiet : ∀ write ∈ fresh, ¬ c.wakes write = true := List.countP_eq_zero.mp count
      have same : c.mirror user next = c.mirror user w := by
        simp only [Copying.mirror, view, held_settled c user spares sound w.view fresh issued quiet, counted, count, acks, reads,
          results, copy, Nat.add_zero]
      rw [same]
      exact .still
  | succ more =>
      have changed : c.mirror user next =
          { c.mirror user w with
            source := c.held user (settle performWrite w.view fresh)
            notices := (c.mirror user w).notices + (more + 1) } := by
        simp only [Copying.mirror, view, counted, count, acks, reads, results, copy, Nat.add_right_comm _ (more + 1)]
      rw [changed]
      exact .change _ more

theorem mirror_acknowledged (w next : World) (write : Write) (succeeded : Bool) (fresh : List Read)
    (member : (write, succeeded) ∈ w.acks)
    (rereads : fresh.countP c.reads = if c.announces (write, succeeded) = true then 1 else 0)
    (store : next.store = w.store) (writes : next.writes = w.writes) (acks : next.acks = w.acks.erase (write, succeeded))
    (reads : next.reads = w.reads ++ fresh) (results : next.results = w.results) (copy : c.copy next = c.copy w) :
    MirrorMove c.shows (c.mirror user w) (c.mirror user next) := by
  have counted : w.acks.countP c.announces = (w.acks.erase (write, succeeded)).countP c.announces +
      if c.announces (write, succeeded) = true then 1 else 0 := by
    rw [(List.perm_cons_erase member).countP_eq c.announces, List.countP_cons]
  have shape : c.mirror user next =
      { c.mirror user w with
        notices := w.writes.countP c.wakes + (w.acks.erase (write, succeeded)).countP c.announces
        reads := (c.mirror user w).reads + fresh.countP c.reads } := by
    simp only [Copying.mirror, World.view, store, writes, acks, reads, results, copy, List.countP_append]
  rw [shape, rereads]
  by_cases announced : c.announces (write, succeeded) = true
  · rw [if_pos announced] at counted ⊢
    refine .refresh _ ?_
    change w.writes.countP c.wakes + w.acks.countP c.announces = _
    rw [counted, Nat.add_assoc]
  · rw [if_neg announced, Nat.add_zero] at counted
    rw [if_neg announced, Nat.add_zero, ← counted]
    exact .still

theorem taken_view (w next : World) (write : Write) (rest : List Write) (queued : w.writes = write :: rest)
    (performed : performWrite w.store write = some next.store) (writes : next.writes = rest) : next.view = w.view := by
  rw [World.view, World.view, localView, localView, queued, settle_cons, taken_some _ _ _ _ performed, writes]

theorem mirror_applied (w : World) (write : Write) (rest : List Write) (store : Store) (queued : w.writes = write :: rest)
    (performed : performWrite w.store write = some store)
    (copy : c.copy { w with writes := rest, store := store, acks := w.acks ++ [(write, true)] } = c.copy w) :
    MirrorMove c.shows (c.mirror user w)
      (c.mirror user { w with writes := rest, store := store, acks := w.acks ++ [(write, true)] }) := by
  have view := taken_view w { w with writes := rest, store := store, acks := w.acks ++ [(write, true)] } write rest queued
    performed rfl
  have announced : c.announces (write, true) = c.wakes write := rfl
  have same : c.mirror user { w with writes := rest, store := store, acks := w.acks ++ [(write, true)] } = c.mirror user w := by
    simp only [Copying.mirror, copy, view, queued, List.countP_cons, List.countP_append, List.countP_nil, announced,
      Mirror.mk.injEq, true_and, and_true]
    omega
  rw [same]
  exact .still

theorem mirror_served (sound : c.Sound spares) (w : World) (read : Read) (result : ReadResult) (member : read ∈ w.reads)
    (fetches : read.Fetches user) (answers : serves w.view read result = true) (heard : result ≠ .failed)
    (copy : c.copy { w with reads := w.reads.erase read, results := w.results ++ [(read, result)] } = c.copy w) :
    MirrorMove c.shows (c.mirror user w)
      (c.mirror user { w with reads := w.reads.erase read, results := w.results ++ [(read, result)] }) := by
  have counted := count_answered c.reads w.reads read member
  have view : { w with reads := w.reads.erase read, results := w.results ++ [(read, result)] }.view = w.view := rfl
  by_cases mine : c.reads read = true
  · have kind : read.kind = c.kind := of_decide_eq_true mine
    rw [if_pos mine] at counted
    have shape : c.mirror user { w with reads := w.reads.erase read, results := w.results ++ [(read, result)] } =
        { c.mirror user w with
          reads := (w.reads.erase read).countP c.reads
          results := (c.mirror user w).results ++ [(c.mirror user w).source] } := by
      simp [Copying.mirror, copy, view, mine, sound.finds user w.view read result kind fetches answers heard]
    rw [shape]
    exact .serve _ counted
  · rw [if_neg mine, Nat.add_zero] at counted
    have shape : c.mirror user { w with reads := w.reads.erase read, results := w.results ++ [(read, result)] } =
        c.mirror user w := by
      simp [Copying.mirror, copy, view, mine, counted]
    rw [shape]
    exact .still

theorem mirror_delivered (sound : c.Sound spares) (w next : World) (read : Read) (result : ReadResult)
    (done : step w (.deliver read result) = some next) (member : (read, result) ∈ w.results)
    (first : ∀ earlier ∈ w.results.takeWhile (fun other => other != (read, result)), earlier.1.kind ≠ read.kind)
    (store : next.store = w.store) (writes : next.writes = w.writes) (acks : next.acks = w.acks)
    (reads : next.reads = w.reads) (results : next.results = w.results.erase (read, result)) :
    MirrorMove c.shows (c.mirror user w) (c.mirror user next) := by
  by_cases mine : c.reads read = true
  · have kind : read.kind = c.kind := of_decide_eq_true mine
    have queue := filter_first (fun pair : Read × ReadResult => c.reads pair.1) w.results (read, result) member mine (by
      intro earlier before
      apply decide_eq_false
      rw [← kind]
      exact first earlier before)
    have shape : c.mirror user next =
        { c.mirror user w with
          results := ((w.results.erase (read, result)).filter (fun pair => c.reads pair.1)).map (fun pair => c.found pair.2)
          shown := c.copy next } := by
      simp only [Copying.mirror, World.view, store, writes, acks, reads, results]
    rw [shape]
    refine .deliver (c.found result) _ _ ?_ (sound.delivers w read result next kind done)
    rw [Copying.mirror, queue, List.map_cons]
  · have other : read.kind ≠ c.kind := of_decide_eq_false (Bool.eq_false_iff.mpr mine)
    have copy := sound.stays w _ next done (by
      intro otherRead otherResult same
      cases same
      exact other)
    have shape : c.mirror user next = c.mirror user w := by
      simp only [Copying.mirror, World.view, store, writes, acks, reads, results, copy,
        filter_erase_dropped (fun pair : Read × ReadResult => c.reads pair.1) w.results (read, result)
          (Bool.eq_false_iff.mpr mine)]
    rw [shape]
    exact .still

end Copies

theorem reply_store (w next : World) (action : Action) (response : Option String) (handled : ReplyStep w action response next) :
    next.store = w.store ∧ next.acks = w.acks := by
  cases handled with
  | purchase service country serviceImage text id number rest completion order user document parsed created account place =>
      have outside := World.start_purchase_outside order (w.authShared.charged user document order)
      exact ⟨outside.store, outside.acks⟩
  | finished order id code dic document update place =>
      have outside := World.stop_timer_outside (w.sendWrite document .updateData dic .fetchNumberPurchases)
      exact ⟨outside.store, outside.acks⟩
  | timedOut order id dic user document update place account =>
      have outside := World.stop_timer_outside ((w.refunded user document dic).post .timeout)
      exact ⟨outside.store, outside.acks⟩
  | cancelled order id completion dic user document update place account =>
      have outside := World.stop_timer_outside (w.refunded user document dic)
      exact ⟨outside.store, outside.acks⟩
  | _ => exact ⟨rfl, rfl⟩

-- Reads succeed, and what reads of one kind have found is handled in the order
-- in which it was found.
def ReadsInTurn (w : World) : Label → Prop
  | .serve _ result => result ≠ .failed
  | .deliver read result =>
      ∀ earlier ∈ w.results.takeWhile (fun other => other != (read, result)), earlier.1.kind ≠ read.kind
  | _ => True

instance (w : World) (label : Label) : Decidable (ReadsInTurn w label) :=
  match label with
  | .serve _ result => inferInstanceAs (Decidable (result ≠ .failed))
  | .deliver read result =>
      inferInstanceAs (Decidable (∀ earlier ∈ w.results.takeWhile (fun other => other != (read, result)),
        earlier.1.kind ≠ read.kind))
  | .initSession _ | .operation _ | .clock _ | .tick _ | .reply _ _ | .applyWrite _ | .acknowledge _ _ | .rentReply _ _
  | .snapshot _ _ => isTrue trivial

-- The back end performs the writes it takes. What it rejects was shown until
-- then, and nothing reads again.
def WritesTaken (w : World) : Label → Prop
  | .applyWrite succeeds => succeeds = true ∧ ∀ write ∈ w.writes.head?, (performWrite w.store write).isSome = true
  | _ => True

instance (w : World) (label : Label) : Decidable (WritesTaken w label) :=
  match label with
  | .applyWrite succeeds =>
      inferInstanceAs (Decidable (succeeds = true ∧ ∀ write ∈ w.writes.head?, (performWrite w.store write).isSome = true))
  | .initSession _ | .operation _ | .clock _ | .tick _ | .reply _ _ | .acknowledge _ _ | .serve _ _ | .deliver _ _
  | .rentReply _ _ | .snapshot _ _ => isTrue trivial

theorem taken_not_rejected (w : World) (succeeds : Bool) (write : Write) (rest : List Write) (queued : w.writes = write :: rest)
    (taken : WritesTaken w (.applyWrite succeeds)) (failed : succeeds = true → performWrite w.store write = none) : False := by
  obtain ⟨accepted, performed⟩ := taken
  have some := performed write (by rw [queued]; rfl)
  rw [failed accepted] at some
  cases some

theorem step_mirror {Value Copy : Type} (c : Copying Value Copy) (spares : Write → Prop) (sound : c.Sound spares) (user : Path)
    (w next : World) (label : Label) (issued : ∀ write ∈ next.writes, Issued user write ∧ spares write)
    (reads : ∀ read ∈ w.reads, read.Fetches user) (turn : ReadsInTurn w label) (taken : WritesTaken w label)
    (done : step w label = some next) : MirrorMove c.shows (c.mirror user w) (c.mirror user next) := by
  have stays := sound.stays w label next done
  have sends : ∀ fresh, next.writes = w.writes ++ fresh → ∀ write ∈ fresh, Issued user write ∧ spares write := by
    intro fresh writes write member
    exact issued write (by rw [writes]; exact List.mem_append_right w.writes member)
  cases step_outcome w next label done with
  | reply call response _ inFlight handled =>
      have same := reply_reads _ next call.action response handled
      have kept := reply_store _ next call.action response handled
      rcases step_writes w next _ done with ⟨fresh, queues⟩ | ⟨_, _, _, other, _⟩
      · exact mirror_issued c user spares sound w next fresh (sends fresh queues.writes) kept.1 queues.writes kept.2 same.reads
          same.results (stays (by simp))
      · cases other
  | initUser | updateFCM | addBalance =>
      exact mirror_issued c user spares sound w _ [_] (sends [_] rfl) rfl rfl rfl rfl rfl (stays (by simp))
  | initPlain parameters account _ _ =>
      exact mirror_ask c user w _ [_, _] rfl rfl rfl (List.append_assoc _ _ _) rfl (stays (by simp))
  | initRent parameters account _ _ =>
      exact mirror_ask c user w _ [_, _] rfl rfl rfl (List.append_assoc _ _ _) rfl (stays (by simp))
  | applied write rest store queued performed =>
      exact mirror_applied c user w write rest store queued performed (stays (by simp))
  | rejected succeeds write rest queued failed => exact False.elim (taken_not_rejected w succeeds write rest queued taken failed)
  | refreshBalance write account member handler _ =>
      refine mirror_acknowledged c user w _ write true [⟨w.sent.length, .document, account⟩] member ?_ rfl rfl rfl rfl rfl
        (stays (by simp))
      cases sound.paired with
      | inl document => simp [Copying.reads, Copying.announces, document, handler]
      | inr collection => simp [Copying.reads, Copying.announces, collection, handler]
  | refreshNumbers write account member handler _ =>
      refine mirror_acknowledged c user w _ write true [⟨w.sent.length, .collection, account ++ ["purchases"]⟩] member ?_
        rfl rfl rfl rfl rfl (stays (by simp))
      cases sound.paired with
      | inl document => simp [Copying.reads, Copying.announces, document, handler]
      | inr collection => simp [Copying.reads, Copying.announces, collection, handler]
  | acknowledged write succeeded member quiet =>
      refine mirror_acknowledged c user w _ write succeeded [] member ?_ rfl rfl rfl (List.append_nil _).symm rfl
        (stays (by simp))
      cases succeeded with
      | false => simp [Copying.announces]
      | true =>
          cases sound.paired with
          | inl document => simp [Copying.announces, document, quiet rfl]
          | inr collection => simp [Copying.announces, collection, quiet rfl]
  | serve read result member answers =>
      exact mirror_served c user spares sound w read result member (reads read member) answers turn (stays (by simp))
  | balanceRead read doc balance member kind field =>
      exact mirror_delivered c user spares sound w _ read _ done member turn rfl rfl rfl rfl rfl
  | numbersRead read result numbers member kind =>
      exact mirror_delivered c user spares sound w _ read _ done member turn rfl rfl rfl rfl rfl
  | readIgnored read result member =>
      exact mirror_delivered c user spares sound w _ read _ done member turn rfl rfl rfl rfl rfl
  | _ => exact mirror_still c user w _ rfl rfl rfl rfl rfl (stays (by simp))

def opensSession : Label → Bool
  | .initSession parameters => decide (parameters.authID ≠ "" ∧ parameters.rentURL ≠ "" ∧ parameters.apiKey ≠ "")
  | _ => false

theorem refreshed_kinds (user : Path) (w : World) (kind : ReadKind) : ∃ read ∈ (w.refreshed user).reads, read.kind = kind := by
  cases kind with
  | document => exact ⟨⟨w.sent.length, .document, user⟩, by simp [World.refreshed, World.sendRead], rfl⟩
  | collection =>
      exact ⟨⟨w.sent.length + 1, .collection, user ++ ["purchases"]⟩, by simp [World.refreshed, World.sendRead], rfl⟩

theorem opening_reads (w next : World) (label : Label) (opens : opensSession label = true) (done : step w label = some next) :
    ∃ user, next.userDocument = some user ∧ ∀ kind, ∃ read ∈ next.reads, read.kind = kind := by
  cases label with
  | initSession parameters =>
      obtain ⟨authID, rentURL, apiKey⟩ := of_decide_eq_true opens
      cases step_outcome w next _ done with
      | initFailed _ missing =>
          rcases missing with missing | missing | missing
          · exact False.elim (authID missing)
          · exact False.elim (rentURL missing)
          · exact False.elim (apiKey missing)
      | initPlain _ user _ account =>
          exact ⟨user, account, refreshed_kinds user (w.configured parameters).authShared⟩
      | initRent _ user _ account =>
          exact ⟨user, account, refreshed_kinds user (w.configured parameters).authShared⟩
  | _ => cases opens

section Settled

variable {Value Copy : Type} (c : Copying Value Copy) (spares : Write → Prop) (allowed : Label → Prop)

structure Mirrored (history : List (World × Label)) (w : World) : Prop where
  writes : ∀ write ∈ w.writes, IssuedFor w write ∧ spares write
  reads : ∀ read ∈ w.reads, ∃ user, w.userDocument = some user ∧ read.Fetches user
  fresh : (∃ entry ∈ history, opensSession entry.2 = true) →
    ∃ user, w.userDocument = some user ∧ Fresh c.shows (c.mirror user w)

theorem mirrored_step (sound : c.Sound spares)
    (spared : ∀ w label next, allowed label → step w label = some next → ∀ write ∈ next.writes, write ∈ w.writes ∨ spares write)
    (history : List (World × Label)) (w : World) (label : Label) (next : World) (before : Mirrored c spares history w)
    (meets : (ReadsInTurn w label ∧ WritesTaken w label) ∧ allowed label) (done : step w label = some next) :
    Mirrored c spares (history ++ [(w, label)]) next := by
  have writes : ∀ write ∈ next.writes, IssuedFor next write ∧ spares write := by
    intro write member
    refine ⟨step_queue_issued w label next (fun write member => (before.writes write member).1) done write member, ?_⟩
    cases spared w label next meets.2 done write member with
    | inl old => exact (before.writes write old).2
    | inr new => exact new
  refine ⟨writes, step_reads_fetch w next label done before.reads, ?_⟩
  intro opened
  by_cases opens : opensSession label = true
  · obtain ⟨user, account, asked⟩ := opening_reads w next label opens done
    obtain ⟨read, member, kind⟩ := asked c.kind
    refine ⟨user, account, .asked ?_⟩
    exact List.countP_pos_iff.mpr ⟨read, member, decide_eq_true kind⟩
  · have earlier : ∃ entry ∈ history, opensSession entry.2 = true := by
      obtain ⟨entry, member, opening⟩ := opened
      cases List.mem_append.mp member with
      | inl old => exact ⟨entry, old, opening⟩
      | inr new =>
          rw [List.mem_singleton.mp new] at opening
          exact False.elim (opens opening)
    obtain ⟨user, account, fresh⟩ := before.fresh earlier
    have signedIn := step_account w next label user account done
    refine ⟨user, signedIn, ?_⟩
    apply mirror_move_fresh c.shows (c.mirror user w) _ ?_ fresh
    apply step_mirror c spares sound user w next label ?_ ?_ meets.1.1 meets.1.2 done
    · intro write member
      obtain ⟨⟨other, account', issued⟩, spare⟩ := writes write member
      rw [Option.some.inj (signedIn.symm.trans account')]
      exact ⟨issued, spare⟩
    · intro read member
      obtain ⟨other, account', fetches⟩ := before.reads read member
      rw [Option.some.inj (account.symm.trans account')]
      exact fetches

theorem copy_settles (sound : c.Sound spares)
    (spared : ∀ w label next, allowed label → step w label = some next → ∀ write ∈ next.writes, write ∈ w.writes ∨ spares write)
    (token clock : String) (device : Device) (store : Store) (w : World) (history : List (World × Label))
    (run : WorldRun (launch token clock device store) history w)
    (meets : ∀ entry ∈ history, (ReadsInTurn entry.1 entry.2 ∧ WritesTaken entry.1 entry.2) ∧ allowed entry.2)
    (opened : ∃ entry ∈ history, opensSession entry.2 = true) (quiet : w.quiescent) :
    ∃ user, w.userDocument = some user ∧ c.shows (c.copy w) (c.held user w.store) := by
  have initial : Mirrored c spares [] (launch token clock device store) := by
    refine ⟨by simp [launch], by simp [launch], ?_⟩
    intro opened
    obtain ⟨entry, member, _⟩ := opened
    cases member
  have mirrored := run_guarded step (fun w label => (ReadsInTurn w label ∧ WritesTaken w label) ∧ allowed label)
    (Mirrored c spares) (mirrored_step c spares allowed sound spared) _ w history run meets initial
  obtain ⟨user, account, fresh⟩ := mirrored.fresh opened
  obtain ⟨_, writes, acks, reads, results, _⟩ := quiet
  refine ⟨user, account, ?_⟩
  have seen : w.view = w.store := by rw [World.view, writes]; rfl
  rw [← seen]
  apply mirror_settled c.shows (c.mirror user w) fresh
  · simp [Copying.mirror, writes, acks]
  · simp [Copying.mirror, reads]
  · simp [Copying.mirror, results]

end Settled

def balanceCopy : Copying (Option Int) Int where
  kind := .document
  refresher := .fetchUserBalance
  held := balanceOf
  found := fun result =>
    match result with
    | .document data => data.bind (fun doc => (tableGet "userBalance" doc).bind Value.asInt)
    | _ => none
  copy w := w.constant.userBalance
  shows balance stored := ∀ value, stored = some value → balance = value

def registers : Label → Bool
  | .operation .initUser => true
  | _ => false

-- initUser puts the balance back to 0, and nothing reads it again.
def KeepsBalance (write : Write) : Prop :=
  write.handler = .ignored → write.kind = .updateData ∧ tableGet "userBalance" write.dic = none

theorem merge_balance_kept (user : Path) (store after : Store) (write : Write) (place : write.document = user)
    (update : write.kind = .updateData) (field : tableGet "userBalance" write.dic = none)
    (performed : performWrite store write = some after) : balanceOf user after = balanceOf user store := by
  rw [performWrite, update] at performed
  obtain ⟨old, found, rfl⟩ := Option.map_eq_some_iff.mp performed
  rw [place] at found
  rw [balanceOf, balanceOf, place, table_get_set_same, found, Option.bind_some, Option.bind_some, table_get_merge, field,
    Option.none_or]

theorem issued_elsewhere (user : Path) (write : Write) (issued : Issued user write) (handler : write.handler = .fetchNumberPurchases) :
    user ≠ write.document := by
  cases issued with
  | balance | register | fcm => cases handler
  | record serial document order id place named waiting described => exact purchase_place_other user document id place
  | finish serial document id code place => exact purchase_place_other user document id place
  | cancel serial document id place => exact purchase_place_other user document id place

theorem issued_at_user (user : Path) (write : Write) (issued : Issued user write) (handler : write.handler ≠ .fetchNumberPurchases) :
    write.document = user := by
  cases issued with
  | balance | register | fcm => rfl
  | record | finish | cancel => exact False.elim (handler rfl)

theorem balance_copy_sound : balanceCopy.Sound KeepsBalance where
  paired := .inl ⟨rfl, rfl⟩
  finds user store read result kind fetches answers heard := by
    cases result with
    | failed => exact False.elim (heard rfl)
    | document data =>
        have path : read.path = user := by
          rw [Read.Fetches, kind] at fetches
          exact fetches
        obtain ⟨_, found⟩ := of_decide_eq_true answers
        rw [path] at found
        rw [found]
        rfl
    | documents data =>
        obtain ⟨collection, _⟩ := (Bool.and_eq_true _ _).mp answers
        cases kind.symm.trans (of_decide_eq_true collection)
  writes user store after write issued spare quiet performed := by
    by_cases purchases : write.handler = .fetchNumberPurchases
    · change balanceOf user after = balanceOf user store
      rw [balanceOf, perform_elsewhere user store after write (issued_elsewhere user write issued purchases) performed, balanceOf]
    · have ignored : write.handler = .ignored := by
        cases handler : write.handler with
        | fetchUserBalance => exact False.elim (quiet handler)
        | fetchNumberPurchases => exact False.elim (purchases handler)
        | ignored => rfl
      obtain ⟨update, field⟩ := spare ignored
      exact merge_balance_kept user store after write (issued_at_user user write issued purchases) update field performed
  delivers w read result next kind done := by
    obtain ⟨member, handled⟩ := Option.ite_none_right_eq_some.mp done
    intro value stored
    rw [kind] at handled
    cases result with
    | failed | documents => cases stored
    | document data =>
        cases data with
        | none => cases stored
        | some doc =>
            obtain ⟨balance, field, rfl⟩ := Option.map_eq_some_iff.mp handled
            exact Option.some.inj (field.symm.trans stored)
  stays w label next done elsewhere := by
    cases step_outcome w next label done with
    | reply call response _ inFlight handled => exact (reply_reads _ next call.action response handled).balance
    | balanceRead read doc balance member kind field => exact False.elim (elsewhere read _ rfl kind)
    | _ => rfl

theorem keeps_balance_writes (w : World) (label : Label) (next : World) (kept : registers label = false)
    (done : step w label = some next) (write : Write) (member : write ∈ next.writes) :
    write ∈ w.writes ∨ KeepsBalance write := by
  rcases step_writes w next label done with ⟨fresh, queues⟩ | ⟨succeeds, first, rest, rfl, queued, left, _⟩
  · rw [queues.writes] at member
    cases List.mem_append.mp member with
    | inl old => exact .inl old
    | inr new =>
        right
        intro ignored
        cases queues.issues with
        | register => cases kept
        | updateFCM token user account =>
            rw [List.mem_singleton.mp new]
            exact ⟨rfl, rfl⟩
        | nothing => cases new
        | deposit | finish =>
            rw [List.mem_singleton.mp new] at ignored
            cases ignored
        | purchase | refund =>
            cases List.mem_cons.mp new with
            | inl same =>
                rw [same] at ignored
                cases ignored
            | inr same =>
                rw [List.mem_singleton.mp same] at ignored
                cases ignored
  · left
    rw [left] at member
    rw [queued]
    exact List.mem_cons_of_mem first member

theorem balance_settles (token clock : String) (device : Device) (store : Store) (w : World) (history : List (World × Label))
    (run : WorldRun (launch token clock device store) history w) (turns : ∀ entry ∈ history, ReadsInTurn entry.1 entry.2)
    (taken : ∀ entry ∈ history, WritesTaken entry.1 entry.2)
    (kept : ∀ entry ∈ history, registers entry.2 = false) (opened : ∃ entry ∈ history, opensSession entry.2 = true)
    (quiet : w.quiescent) :
    ∃ user, w.userDocument = some user ∧ ∀ balance, balanceOf user w.store = some balance → w.constant.userBalance = balance :=
  copy_settles balanceCopy KeepsBalance (fun label => registers label = false) balance_copy_sound keeps_balance_writes
    token clock device store w history run
    (fun entry member => ⟨⟨turns entry member, taken entry member⟩, kept entry member⟩) opened quiet

def numbersCopy : Copying (Multiset Document) (List ActivationModel) where
  kind := .collection
  refresher := .fetchNumberPurchases
  held user store := documentsIn (user ++ ["purchases"]) store
  found := fun result =>
    match result with
    | .documents snaps => snaps
    | _ => ↑([] : List Document)
  copy w := w.auth.userNumbers
  shows numbers stored := ∀ first rest, stored = ↑(first :: rest) → ∃ snaps : List Document,
    snaps.Perm (first :: rest) ∧ World.sortNumbers (snaps.map ActivationModel.fromData) = some numbers

theorem numbers_copy_sound : numbersCopy.Sound (fun _ => True) where
  paired := .inr ⟨rfl, rfl⟩
  finds user store read result kind fetches answers heard := by
    cases result with
    | failed => exact False.elim (heard rfl)
    | document data => cases kind.symm.trans (of_decide_eq_true answers).1
    | documents data =>
        have path : read.path = user ++ ["purchases"] := by
          rw [Read.Fetches, kind] at fetches
          exact fetches
        obtain ⟨_, listed⟩ := (Bool.and_eq_true _ _).mp answers
        rw [path] at listed
        exact Multiset.coe_eq_coe.mpr (List.isPerm_iff.mp listed)
  writes user store after write issued _ quiet performed := by
    have place := issued_at_user user write issued quiet
    obtain ⟨value, rfl⟩ := performed_sets store after write performed
    change ((documentsIn _ _ : List Document) : Multiset Document) = ↑(documentsIn _ _)
    rw [documentsIn, documentsIn, place,
      table_filter_set_outside (inCollection (user ++ ["purchases"])) user value store (user_outside user)]
  delivers w read result next kind done := by
    obtain ⟨member, handled⟩ := Option.ite_none_right_eq_some.mp done
    intro first rest stored
    rw [kind] at handled
    cases result with
    | failed | document => exact False.elim (List.cons_ne_nil _ _ (Multiset.coe_eq_coe.mp stored).symm.eq_nil)
    | documents snaps =>
        have listed := Multiset.coe_eq_coe.mp stored
        cases snaps with
        | nil => exact False.elim (List.cons_ne_nil _ _ listed.symm.eq_nil)
        | cons head tail =>
            obtain ⟨numbers, sorted, rfl⟩ := Option.map_eq_some_iff.mp handled
            exact ⟨head :: tail, listed, sorted⟩
  stays w label next done elsewhere := by
    cases label with
    | deliver read result =>
        obtain ⟨member, handled⟩ := Option.ite_none_right_eq_some.mp done
        cases kind : read.kind with
        | collection => exact False.elim (elsewhere read result rfl kind)
        | document =>
            cases step_outcome w next _ done with
            | balanceRead | readIgnored => rfl
            | numbersRead _ _ _ _ collection => cases kind.symm.trans collection
    | reply call response =>
        cases step_outcome w next _ done with
        | reply _ _ _ inFlight handled => exact (reply_reads _ next call.action response handled).numbers
    | _ => cases step_outcome w next _ done <;> rfl

theorem documents_set_empty (collection path : Path) (value : Document) (store : Store)
    (empty : documentsIn collection (tableSet path value store) = []) : documentsIn collection store = [] := by
  rw [documentsIn, List.map_eq_nil_iff, List.filter_eq_nil_iff] at empty ⊢
  intro entry member
  by_cases same : entry.1 = path
  · rw [same]
    exact empty (path, value) (List.mem_cons_self)
  · exact empty entry (List.mem_cons_of_mem _ (List.mem_filter.mpr ⟨member, decide_eq_true same⟩))

theorem settled_documents_empty (collection : Path) (queue : List Write) (store : Store)
    (empty : documentsIn collection (settle performWrite store queue) = []) : documentsIn collection store = [] := by
  have kept : documentsIn collection (settle performWrite store queue) = [] → documentsIn collection store = [] := by
    apply settle_invariant performWrite
      (fun settled => documentsIn collection settled = [] → documentsIn collection store = []) queue _ store id
    intro settled write after _ earlier performed vacant
    obtain ⟨value, rfl⟩ := performed_sets settled after write performed
    exact earlier (documents_set_empty collection write.document value settled vacant)
  exact kept empty

theorem step_view_empty (collection : Path) (w next : World) (label : Label) (taken : WritesTaken w label)
    (done : step w label = some next) (empty : documentsIn collection next.view = []) : documentsIn collection w.view = [] := by
  rcases step_writes w next label done with ⟨fresh, queues⟩ | ⟨succeeds, write, rest, rfl, queued, left, sent, stored⟩
  · apply settled_documents_empty collection fresh
    rw [World.view, localView, queues.store, queues.writes, settle_append] at empty
    exact empty
  · obtain ⟨accepted, performs⟩ := taken
    obtain ⟨after, performed⟩ := Option.isSome_iff_exists.mp (performs write (by rw [queued]; rfl))
    rw [accepted, if_pos rfl, performed] at stored
    rw [taken_view w next write rest queued (by rw [stored]; exact performed) left] at empty
    exact empty

-- The account is chosen once, so what is known of the only account there can
-- be is known before it is chosen.
def OnlyAccount (w : World) (user : Path) : Prop := ∀ other, w.userDocument = some other → other = user

theorem only_account_before (w next : World) (label : Label) (user : Path) (only : OnlyAccount next user)
    (done : step w label = some next) : OnlyAccount w user :=
  fun other account => only other (step_account w next label other account done)

-- While the client sees no record, no read has found one.
structure Unlisted (w : World) : Prop where
  reads : ∀ read ∈ w.reads, ∃ user, w.userDocument = some user ∧ read.Fetches user
  blank : ∀ user, OnlyAccount w user → documentsIn (user ++ ["purchases"]) w.view = [] →
    (∀ read data, (read, .documents data) ∈ w.results → read.kind = .collection → data = []) ∧ w.auth.userNumbers = []

theorem unlisted_step (w : World) (label : Label) (next : World) (before : Unlisted w) (taken : WritesTaken w label)
    (done : step w label = some next) : Unlisted next := by
  constructor
  · exact step_reads_fetch w next label done before.reads
  · intro user only empty
    have earlier := only_account_before w next label user only done
    have vacant := step_view_empty _ w next label taken done empty
    obtain ⟨results, numbers⟩ := before.blank user earlier vacant
    constructor
    · intro read data member kind
      cases step_results w next label done read (.documents data) member with
      | inl old => exact results read data old kind
      | inr served =>
          obtain ⟨other, account, fetches⟩ := before.reads read served.2.1
          rw [Read.Fetches, kind, earlier other account] at fetches
          have found := (Bool.and_eq_true_iff.mp served.2.2).2
          rw [fetches, vacant] at found
          exact (List.isPerm_iff.mp found).eq_nil
    · rcases step_numbers w next label done with same | ⟨read, first, rest, member, kind, _⟩
      · exact same.trans numbers
      · cases results read _ member kind

-- One activation is bought, and everything that follows from it is answered.
def purchaseAnswered : List Label :=
  demoOpening ++ demoBuy 2 "100" ++
  [.applyWrite true, .applyWrite true,
    .acknowledge ⟨3, demoUser, .updateData, [("userBalance", .int 4)], .fetchUserBalance⟩ true,
    .acknowledge ⟨4, demoUser ++ ["purchases", "100"], .setData, (demoOrder "100").createDic, .fetchNumberPurchases⟩ true,
    .serve ⟨5, .document, demoUser⟩ (.document (some [("userBalance", .int 4)])),
    .serve ⟨6, .collection, demoUser ++ ["purchases"]⟩ (.documents [(demoOrder "100").createDic]),
    .deliver ⟨6, .collection, demoUser ++ ["purchases"]⟩ (.documents [(demoOrder "100").createDic]),
    .deliver ⟨5, .document, demoUser⟩ (.document (some [("userBalance", .int 4)]))]

theorem purchase_balance_settles :
    ∃ w, WorldRun demoLaunch (trace step demoLaunch purchaseAnswered) w ∧ w.quiescent ∧
      balanceOf demoUser w.store = some 4 ∧ w.constant.userBalance = 4 := by
  obtain ⟨w, run, quiet, account, held⟩ := exec_reaches step demoLaunch purchaseAnswered
    (fun w => w.quiescent ∧ w.userDocument = some demoUser ∧ balanceOf demoUser w.store = some 4) (by decide +kernel)
  obtain ⟨user, signedIn, shown⟩ := balance_settles "" "8 Sep 2022 at 10:00" demoDevice demoStore w _ run
    (by decide +kernel) (by decide +kernel) (by decide +kernel) (by decide +kernel) quiet
  rw [← Option.some.inj (account.symm.trans signedIn)] at shown
  exact ⟨w, run, quiet, held, shown 4 held⟩

theorem activations_settle (token clock : String) (device : Device) (store : Store) (w : World)
    (history : List (World × Label)) (run : WorldRun (launch token clock device store) history w)
    (turns : ∀ entry ∈ history, ReadsInTurn entry.1 entry.2) (taken : ∀ entry ∈ history, WritesTaken entry.1 entry.2)
    (opened : ∃ entry ∈ history, opensSession entry.2 = true) (quiet : w.quiescent) :
    ∃ user, w.userDocument = some user ∧ ∃ snaps : List Document, snaps.Perm (documentsIn (user ++ ["purchases"]) w.store) ∧
      World.sortNumbers (snaps.map ActivationModel.fromData) = some w.auth.userNumbers := by
  obtain ⟨user, account, shows⟩ := copy_settles numbersCopy (fun _ => True) (fun _ => True) numbers_copy_sound
    (fun _ _ _ _ _ _ _ => .inr trivial) token clock device store w history run
    (fun entry member => ⟨⟨turns entry member, taken entry member⟩, trivial⟩) opened quiet
  refine ⟨user, account, ?_⟩
  cases listed : documentsIn (user ++ ["purchases"]) w.store with
  | cons first rest => exact shows first rest (congrArg _ listed)
  | nil =>
      have unlisted := run_guarded step WritesTaken (fun _ w => Unlisted w)
        (fun _ t label u before taken done => unlisted_step t label u before taken done) _ w history run taken
        ⟨by simp [launch], fun _ _ _ => ⟨by simp [launch], rfl⟩⟩
      have seen : w.view = w.store := by rw [World.view, quiet.2.1]; rfl
      have only : OnlyAccount w user := fun other signedIn => Option.some.inj (signedIn.symm.trans account)
      refine ⟨[], .refl [], ?_⟩
      rw [(unlisted.blank user only (by rw [seen]; exact listed)).2]
      rfl

theorem purchase_activations_settle :
    ∃ w, WorldRun demoLaunch (trace step demoLaunch purchaseAnswered) w ∧ w.quiescent ∧
      documentsIn (demoUser ++ ["purchases"]) w.store = [(demoOrder "100").createDic] ∧
      w.auth.userNumbers = [demoOrder "100"] := by
  obtain ⟨w, run, quiet, account, listed⟩ := exec_reaches step demoLaunch purchaseAnswered
    (fun w => w.quiescent ∧ w.userDocument = some demoUser ∧
      documentsIn (demoUser ++ ["purchases"]) w.store = [(demoOrder "100").createDic]) (by decide +kernel)
  obtain ⟨user, signedIn, snaps, perm, sorted⟩ := activations_settle "" "8 Sep 2022 at 10:00" demoDevice demoStore
    w _ run (by decide +kernel) (by decide +kernel) (by decide +kernel) quiet
  rw [← Option.some.inj (account.symm.trans signedIn), listed, List.perm_singleton] at perm
  rw [perm] at sorted
  exact ⟨w, run, quiet, listed, (Option.some.inj sorted).symm⟩

end SmsActivate
