import SmsActivate.Lib.Simulation
import SmsActivate.Mirroring
import SmsActivate.Traps

set_option autoImplicit false

namespace SmsActivate

open SmsActivate.Lib

-- The public methods of an SMSActivate object that only read.
inductive Getter where
  | getRents
  | getRentBalance
  | getRentBalanceAsString
  | getSelectedRentService
  | getSelectedRentCountry
  | getActivations
  | getBalance
  | getBalanceAsString
  | getSelectedService
  | getSelectedCountry
  | getData
  | getCurrentActivation
deriving DecidableEq, Repr

def Getter.usesAuthManager : Getter → Bool
  | .getRents | .getActivations | .getBalanceAsString | .getCurrentActivation => true
  | _ => false

inductive Turn where
  | label (label : Label)
  | get (getter : Getter)
deriving DecidableEq, Repr

def Turn.visible : Turn → Option Label
  | .label taken => some taken
  | .get _ => none

-- A getter creates AuthManager.shared when nobody has used it before.
def World.look (getter : Getter) (w : World) : World := if getter.usesAuthManager then w.authShared else w

def turnStep (w : World) : Turn → Option World
  | .label label => step w label
  | .get getter => some (w.look getter)

def SessionOpened (history : List (World × Turn)) : Prop :=
  ∃ entry ∈ history, entry.2.visible.any opensSession = true

theorem opening_authorised (w next : World) (label : Label) (opens : opensSession label = true)
    (done : step w label = some next) : next.auth.authID.isSome := by
  obtain ⟨user, account, _⟩ := opening_reads w next label opens done
  obtain ⟨authID, held, _⟩ := Option.bind_eq_some_iff.mp account
  rw [held]
  rfl

theorem step_stays_authorised (w next : World) (label : Label) (authorised : w.auth.authID.isSome)
    (done : step w label = some next) : next.auth.authID = w.auth.authID := by
  obtain ⟨authID, held⟩ := Option.isSome_iff_exists.mp authorised
  cases (step_copies w next label done).authID with
  | inl same => exact same
  | inr copied => rw [copied, held, Option.getD_some]

theorem look_authorised (w : World) (getter : Getter) (authorised : w.auth.authID.isSome) : w.look getter = w := by
  obtain ⟨authID, held⟩ := Option.isSome_iff_exists.mp authorised
  by_cases uses : getter.usesAuthManager = true
  · rw [World.look, if_pos uses, World.authShared, held, Option.getD_some, ← held]
  · rw [World.look, if_neg uses]

theorem look_kept (w : World) (getter : Getter) (unused : getter.usesAuthManager = false) : w.look getter = w := by
  rw [World.look, unused]
  rfl

theorem turn_stays_authorised (w next : World) (turn : Turn) (authorised : w.auth.authID.isSome)
    (done : turnStep w turn = some next) : next.auth.authID = w.auth.authID := by
  cases turn with
  | label label => exact step_stays_authorised w next label authorised done
  | get getter => rw [← Option.some.inj done, look_authorised w getter authorised]

theorem turn_opened_kept (history : List (World × Turn)) (w next : World) (turn : Turn) (done : turnStep w turn = some next)
    (before : SessionOpened history → w.auth.authID.isSome) (opened : SessionOpened (history ++ [(w, turn)])) :
    next.auth.authID.isSome := by
  obtain ⟨entry, member, opens⟩ := opened
  cases List.mem_append.mp member with
  | inl old =>
      have authorised := before ⟨entry, old, opens⟩
      rw [turn_stays_authorised w next turn authorised done]
      exact authorised
  | inr last =>
      rw [List.mem_singleton.mp last] at opens
      cases turn with
      | label label => exact opening_authorised w next label opens done
      | get getter => cases opens

-- Getters called after a complete init leave no trace: without them the run
-- is a run of the process, through the same states.
theorem getters_leave_no_trace (token clock : String) (device : Device) (store : Store) (w : World)
    (history : List (World × Turn)) (run : Run turnStep (launch token clock device store) history w)
    (late : Along (fun earlier _ turn => ∀ getter, turn = .get getter → getter.usesAuthManager = true → SessionOpened earlier)
      history) :
    WorldRun (launch token clock device store) (visibleSteps Turn.visible history) w := by
  refine run_stutters turnStep step Turn.visible (fun history w => SessionOpened history → w.auth.authID.isSome) _
    ?_ ?_ ?_ _ w history run late ?_
  · intro s turn t label shown done
    cases turn with
    | label taken => exact Option.some.inj shown ▸ done
    | get getter => cases shown
  · intro earlier s turn t authorised lately hidden done
    cases turn with
    | label taken => cases hidden
    | get getter =>
        rw [← Option.some.inj done]
        by_cases uses : getter.usesAuthManager = true
        · exact look_authorised s getter (authorised (lately getter rfl uses))
        · exact look_kept s getter (Bool.eq_false_iff.mpr uses)
  · intro earlier s turn t authorised _ done
    exact turn_opened_kept earlier s t turn done authorised
  · intro opened
    obtain ⟨entry, member, _⟩ := opened
    cases member

theorem late_after_opening (w : World) (label : Label) (opens : opensSession label = true) (rest : List (World × Turn)) :
    Along (fun earlier _ turn => ∀ getter, turn = .get getter → getter.usesAuthManager = true → SessionOpened earlier)
      ((w, .label label) :: rest) := by
  intro earlier t turn later split getter asked _
  cases earlier with
  | nil =>
      obtain ⟨same, _⟩ := List.cons.inj split
      rw [asked] at same
      cases same
  | cons first more =>
      obtain ⟨same, _⟩ := List.cons.inj split
      exact ⟨first, List.mem_cons_self, by rw [← same]; exact opens⟩

def lookedAt : List Turn := demoOpening.map Turn.label ++ [.get .getActivations, .label (.clock "later"), .get .getRents]

theorem opening_without_getters :
    ∃ w, WorldRun demoLaunch (visibleSteps Turn.visible (trace turnStep demoLaunch lookedAt)) w ∧ w.clock = "later" := by
  obtain ⟨w, run, later⟩ := exec_reaches turnStep demoLaunch lookedAt (fun w => w.clock = "later") (by decide +kernel)
  have late := late_after_opening demoLaunch (.initSession demoParameters) rfl
    (((turnStep demoLaunch (.label (.initSession demoParameters))).map
      (fun t => trace turnStep t (lookedAt.drop 1))).getD [])
  exact ⟨w, getters_leave_no_trace "" "8 Sep 2022 at 10:00" demoDevice demoStore w _ run late, later⟩

theorem account_rejected (w : World) (parameters : Parameters) (authID : String)
    (opens : opensSession (.initSession parameters) = true) (bound : w.auth.authID = some authID)
    (refused : documentIn ["users"] authID = none) : step w (.initSession parameters) = none := by
  apply Option.not_isSome_iff_eq_none.mp
  intro handled
  have fine := (w.init_session_handled_iff parameters).mp handled
  obtain ⟨named, addressed, keyed⟩ := of_decide_eq_true opens
  rcases fine with none | none | none | accepted
  · exact named none
  · exact addressed none
  · exact keyed none
  · rw [bound, Option.getD_some, refused] at accepted
    cases accepted.1

-- A getter called before that binds the process, for good, to the account id
-- of the failed init; if Firestore does not accept it, no later init comes
-- through.
theorem early_getter_binds (w : World) (getter : Getter) (uses : getter.usesAuthManager = true)
    (unused : w.auth.authID = none) (later : World) (history : List (World × Turn))
    (run : Run turnStep (w.look getter) history later) :
    later.auth.authID = some w.constant.authID ∧
      (documentIn ["users"] w.constant.authID = none → ∀ parameters : Parameters,
        opensSession (.initSession parameters) = true → step later (.initSession parameters) = none) := by
  have bound : later.auth.authID = some w.constant.authID := by
    refine run_invariant turnStep (fun later => later.auth.authID = some w.constant.authID) ?_ _ later history run ?_
    · intro t turn u held done
      exact (turn_stays_authorised t u turn (by rw [held]; rfl) done).trans held
    · rw [World.look, if_pos uses, World.authShared, unused]
      rfl
  exact ⟨bound, fun refused parameters opens => account_rejected later parameters w.constant.authID opens bound refused⟩

def signedOut : Parameters := ⟨"", "https://rent", "k1", "", false⟩

theorem looked_before_signing_in :
    ∃ w, step demoLaunch (.initSession signedOut) = some w ∧
      step (w.look .getActivations) (.initSession demoParameters) = none := by
  obtain ⟨w, done, unused, unnamed⟩ : ∃ w, step demoLaunch (.initSession signedOut) = some w ∧ w.auth.authID = none ∧
      w.constant.authID = "" := ⟨_, rfl, rfl, rfl⟩
  have binds := early_getter_binds w .getActivations rfl unused _ [] .start
  rw [unnamed] at binds
  exact ⟨w, done, binds.2 rfl demoParameters rfl⟩

end SmsActivate
