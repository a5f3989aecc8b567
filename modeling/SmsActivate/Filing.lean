import SmsActivate.Loading
import SmsActivate.Mirroring
import SmsActivate.Updates

set_option autoImplicit false

namespace SmsActivate

open SmsActivate.Lib

-- A record as getActivations needs it: filed under its own id, with every
-- field there and a status that has a text.
structure Filed (user path : Path) (record : ActivationModel) : Prop where
  place : ∃ id, record.order_id = some id ∧ documentIn (user ++ ["purchases"]) id = some path
  described : Described record
  status : record.status = some "1" ∨ record.status = some "6" ∨ record.status = some "8"

def AllFiled (user : Path) (store : Store) : Prop :=
  ∀ entry ∈ store, inCollection (user ++ ["purchases"]) entry.1 = true → Filed user entry.1 (ActivationModel.fromData entry.2)

theorem all_filed_set (user path : Path) (value : Document) (store : Store) (sound : AllFiled user store)
    (filed : inCollection (user ++ ["purchases"]) path = true → Filed user path (ActivationModel.fromData value)) :
    AllFiled user (tableSet path value store) := by
  intro entry member inside
  cases List.mem_cons.mp member with
  | inl same =>
      rw [same] at inside ⊢
      exact filed inside
  | inr old => exact sound entry (List.mem_filter.mp old).1 inside

theorem finished_record (id code : String) (old : Document) :
    ActivationModel.fromData (tableMerge [("status", .string "6"), ("verifyCode", .string code), ("order_id", .string id)] old) =
      { ActivationModel.fromData old with status := some "6", verifyCode := some code, order_id := some id } := by
  simp [ActivationModel.fromData, merged_field, tableGet, Value.asString]

theorem cancelled_record (id : String) (old : Document) :
    ActivationModel.fromData (tableMerge [("status", .string "8"), ("order_id", .string id)] old) =
      { ActivationModel.fromData old with status := some "8", order_id := some id } := by
  simp [ActivationModel.fromData, merged_field, tableGet, Value.asString]

theorem issued_keeps_filed (user : Path) (store after : Store) (write : Write) (issued : Issued user write)
    (sound : AllFiled user store) (performed : performWrite store write = some after) : AllFiled user after := by
  have outside : ∀ value : Document, inCollection (user ++ ["purchases"]) user = true →
      Filed user user (ActivationModel.fromData value) := by
    intro value inside
    rw [user_outside] at inside
    cases inside
  cases issued with
  | balance serial value | fcm serial token =>
      obtain ⟨old, found, rfl⟩ := Option.map_eq_some_iff.mp performed
      exact all_filed_set user user _ store sound (outside _)
  | register serial deviceID =>
      rw [← Option.some.inj performed]
      exact all_filed_set user user _ store sound (outside _)
  | record serial document order id place named waiting described =>
      rw [← Option.some.inj performed]
      apply all_filed_set user document _ store sound
      intro inside
      rw [created_record_decodes]
      exact ⟨⟨id, named, place⟩, described, .inl waiting⟩
  | finish serial document id code place =>
      obtain ⟨old, found, rfl⟩ := Option.map_eq_some_iff.mp performed
      apply all_filed_set user document _ store sound
      intro inside
      have filed := sound (document, old) (table_get_entry document old store found) inside
      rw [finished_record]
      exact ⟨⟨id, rfl, place⟩, { filed.described with verifyCode := rfl }, .inr (.inl rfl)⟩
  | cancel serial document id place =>
      obtain ⟨old, found, rfl⟩ := Option.map_eq_some_iff.mp performed
      apply all_filed_set user document _ store sound
      intro inside
      have filed := sound (document, old) (table_get_entry document old store found) inside
      rw [cancelled_record]
      exact ⟨⟨id, rfl, place⟩, { filed.described with }, .inr (.inr rfl)⟩

theorem settled_filed (user : Path) (queue : List Write) (store : Store) (issued : ∀ write ∈ queue, Issued user write)
    (sound : AllFiled user store) : AllFiled user (settle performWrite store queue) := by
  apply settle_invariant performWrite (AllFiled user) queue _ store sound
  intro settled write after member filed performed
  exact issued_keeps_filed user settled after write (issued write member) filed performed

theorem step_keeps_filed (w next : World) (label : Label) (user : Path) (writes : ∀ write ∈ w.writes, IssuedFor w write)
    (only : OnlyAccount w user) (sound : AllFiled user w.store) (done : step w label = some next) : AllFiled user next.store := by
  rcases step_writes w next label done with ⟨fresh, queues⟩ | ⟨succeeds, write, rest, rfl, queued, left, sent, stored⟩
  · rw [queues.store]
    exact sound
  · rw [stored]
    cases succeeds with
    | false => exact sound
    | true =>
        simp only [if_true]
        cases performed : performWrite w.store write with
        | none => exact sound
        | some after =>
            obtain ⟨other, account, issued⟩ := writes write (by simp [queued])
            rw [only other account] at issued
            exact issued_keeps_filed user w.store after write issued sound performed

def FiledRecord (user : Path) (record : ActivationModel) : Prop := ∃ path, Filed user path record

-- Complete records only are stored, on their way to the client, and shown.
structure FiledFor (user : Path) (w : World) : Prop where
  store : AllFiled user w.store
  results : ∀ read data, (read, .documents data) ∈ w.results → read.kind = .collection →
    ∀ doc ∈ data, FiledRecord user (ActivationModel.fromData doc)
  numbers : ∀ record ∈ w.auth.userNumbers, FiledRecord user record

structure FiledThroughout (store : Store) (w : World) : Prop where
  writes : ∀ write ∈ w.writes, IssuedFor w write
  reads : ∀ read ∈ w.reads, ∃ user, w.userDocument = some user ∧ read.Fetches user
  filed : ∀ user, OnlyAccount w user → AllFiled user store → FiledFor user w

-- A read finds what is stored and what the client's own writes, still
-- pending, would make of it.
theorem served_filed (user : Path) (w : World) (read : Read) (data : List Document)
    (writes : ∀ write ∈ w.writes, IssuedFor w write) (only : OnlyAccount w user) (sound : AllFiled user w.store)
    (fetches : read.path = user ++ ["purchases"]) (served : serves w.view read (.documents data) = true) :
    ∀ doc ∈ data, FiledRecord user (ActivationModel.fromData doc) := by
  have issued : ∀ write ∈ w.writes, Issued user write := by
    intro write member
    obtain ⟨other, account, shape⟩ := writes write member
    rw [only other account] at shape
    exact shape
  have seen : AllFiled user w.view := settled_filed user w.writes w.store issued sound
  intro doc member
  have listed := List.isPerm_iff.mp (Bool.and_eq_true_iff.mp served).2
  obtain ⟨place, kept, rfl⟩ := List.mem_map.mp (listed.mem_iff.mp member)
  obtain ⟨held, collected⟩ := List.mem_filter.mp kept
  rw [fetches] at collected
  exact ⟨place.1, seen place held collected⟩

theorem filed_throughout_step (store : Store) (w : World) (label : Label) (next : World) (before : FiledThroughout store w)
    (done : step w label = some next) : FiledThroughout store next := by
  refine ⟨step_queue_issued w label next before.writes done, step_reads_fetch w next label done before.reads, ?_⟩
  intro user only initial
  have earlier := only_account_before w next label user only done
  have filed := before.filed user earlier initial
  refine ⟨step_keeps_filed w next label user before.writes earlier filed.store done, ?_, ?_⟩
  · intro read data member kind
    cases step_results w next label done read (.documents data) member with
    | inl old => exact filed.results read data old kind
    | inr served =>
        obtain ⟨other, account, fetches⟩ := before.reads read served.2.1
        rw [Read.Fetches, kind, earlier other account] at fetches
        exact served_filed user w read data before.writes earlier filed.store fetches served.2.2
  · intro record member
    rcases step_numbers w next label done with same | ⟨read, first, rest, found, kind, sorted⟩
    · rw [same] at member
      exact filed.numbers record member
    · have inside := (sort_descending_perm _ _ _ sorted).mem_iff.mp member
      obtain ⟨doc, listed, rfl⟩ := List.mem_map.mp inside
      exact filed.results read _ found kind doc listed

theorem filed_status_text (user path : Path) (record : ActivationModel) (filed : Filed user path record) :
    record.getNumberStatusText.isSome := by
  rcases filed.status with status | status | status
  · simp [ActivationModel.getNumberStatusText, status]
  · obtain ⟨title, titled⟩ := Option.isSome_iff_exists.mp filed.described.serviceTitle
    obtain ⟨code, coded⟩ := Option.isSome_iff_exists.mp filed.described.verifyCode
    simp [ActivationModel.getNumberStatusText, status, titled, coded]
  · simp [ActivationModel.getNumberStatusText, status]

-- Whatever purchases, cancellations and failures there are, every record of the
-- account stays complete, and getActivations lists complete records only.
theorem records_stay_filed (token clock : String) (device : Device) (store : Store) (w : World)
    (history : List (World × Label)) (run : WorldRun (launch token clock device store) history w) (user : Path)
    (account : w.userDocument = some user) (initial : AllFiled user store) :
    AllFiled user w.store ∧ ∀ record ∈ w.auth.userNumbers,
      (∃ path, Filed user path record) ∧ record.getNumberStatusText.isSome := by
  have only : OnlyAccount w user := fun other signedIn => Option.some.inj (signedIn.symm.trans account)
  have throughout := run_invariant step (FiledThroughout store) (filed_throughout_step store) _ w history run
    ⟨by simp [launch], by simp [launch], fun user _ initial => ⟨initial, by simp [launch], by simp [launch]⟩⟩
  have filed := throughout.filed user only initial
  refine ⟨filed.store, ?_⟩
  intro record member
  obtain ⟨path, placed⟩ := filed.numbers record member
  exact ⟨⟨path, placed⟩, filed_status_text user path record placed⟩

theorem demo_store_filed : AllFiled demoUser demoStore := by
  intro entry member inside
  rw [List.mem_singleton.mp member, user_outside] at inside
  cases inside

theorem purchase_stays_filed :
    ∃ w, WorldRun demoLaunch (trace step demoLaunch purchaseAnswered) w ∧ w.auth.userNumbers = [demoOrder "100"] ∧
      AllFiled demoUser w.store ∧ ∀ record ∈ w.auth.userNumbers,
        (∃ path, Filed demoUser path record) ∧ record.getNumberStatusText.isSome := by
  obtain ⟨w, run, account, listed⟩ := exec_reaches step demoLaunch purchaseAnswered
    (fun w => w.userDocument = some demoUser ∧ w.auth.userNumbers = [demoOrder "100"]) (by decide +kernel)
  have stays := records_stay_filed "" "8 Sep 2022 at 10:00" demoDevice demoStore w _ run demoUser account
    demo_store_filed
  exact ⟨w, run, listed, stays⟩

end SmsActivate
