import JaDesktop.Bridge.ExitControl

/-!
# A session that is attached while the application leaves

The actor attaches a session while another thread starts, shortens or repeats an exit attempt.  The
locked part of the call is one step, and so is each read or write of the flag and of the hook.  Two
flags of the state record an order: whether the actor read `cancelled` after the locked part of the
call, and whether the call read the hook after the actor had stored it.
-/

namespace JaDesktop.Bridge

/-- Where `trigger_until` or `retry_until` stands. -/
inductive ExitCaller
  | called
  | taking (deadline : ℕ)
  | invoking (hook : Option ℕ) (deadline : ℕ)
  | returned
deriving DecidableEq

/-- Where `attach_session` stands. -/
inductive Attacher
  | called
  | read (alreadyCancelled : Bool)
  | stored
  | taking (deadline : ℕ)
  | invoking (hook : Option ℕ) (deadline : ℕ)
  | returned
deriving DecidableEq

/-- The actor has not stored the hook. -/
def Attacher.early : Attacher → Bool
  | .called | .read _ => true
  | _ => false

/-- The steps of the two threads. -/
inductive RaceAction
  | locked
  | take
  | invoke
  | attachRead
  | attachStore
  | attachDeadline
  | attachTake
  | attachInvoke
deriving DecidableEq

/-- The control, where the threads stand, the hooks that were called with their deadlines, and the
order of the steps that matter. -/
structure ExitRace where
  control : ExitControl
  caller : ExitCaller
  attacher : Attacher
  invoked : List (ℕ × ℕ)
  readAfterLocked : Bool
  tookAfterStore : Bool
deriving DecidableEq

namespace ExitRace

/-- Both calls begin, after some earlier calls, and no session is attached. -/
def initial (earlier : List ExitCall) : ExitRace :=
  ⟨.afterCalls earlier, .called, .called, [], false, false⟩

/-- Call the hook, if there is one. -/
def invoke (s : ExitRace) (hook : Option ℕ) (deadline : ℕ) : List (ℕ × ℕ) :=
  s.invoked ++ (hook.map fun session => (session, deadline)).toList

variable (session : ℕ) (call : ExitCall)

/-- One step, where it can be taken. -/
def after (s : ExitRace) : RaceAction → Option ExitRace
  | .locked =>
    match s.caller with
    | .called =>
      some { s with
        control := (s.control.request call).1
        caller := match (s.control.request call).2 with
          | some deadline => .taking deadline
          | none => .returned }
    | _ => none
  | .take =>
    match s.caller with
    | .taking deadline =>
      some { s with
        caller := .invoking s.control.cancellationHook deadline
        tookAfterStore := s.control.cancellationHook = some session }
    | _ => none
  | .invoke =>
    match s.caller with
    | .invoking hook deadline =>
      some { s with caller := .returned, invoked := s.invoke hook deadline }
    | _ => none
  | .attachRead =>
    match s.attacher with
    | .called =>
      some { s with
        attacher := .read s.control.cancelled
        readAfterLocked := s.caller ≠ .called }
    | _ => none
  | .attachStore =>
    match s.attacher with
    | .read alreadyCancelled =>
      some { s with
        control := { s.control with cancellationHook := some session }
        attacher := if alreadyCancelled then .stored else .returned }
    | _ => none
  | .attachDeadline =>
    match s.attacher with
    | .stored =>
      some { s with attacher := match s.control.attempt with
        | some attempt => .taking attempt.deadline
        | none => .returned }
    | _ => none
  | .attachTake =>
    match s.attacher with
    | .taking deadline => some { s with attacher := .invoking s.control.cancellationHook deadline }
    | _ => none
  | .attachInvoke =>
    match s.attacher with
    | .invoking hook deadline =>
      some { s with attacher := .returned, invoked := s.invoke hook deadline }
    | _ => none

/-- The step relation. -/
def Step (s : ExitRace) (action : RaceAction) (s' : ExitRace) : Prop :=
  s.after session call action = some s'

/-- The hook of the session was called with a deadline at most that of the current attempt. -/
def Woken (s : ExitRace) : Prop :=
  ∃ attempt, s.control.attempt = some attempt ∧
    ∃ deadline ≤ attempt.deadline, (session, deadline) ∈ s.invoked

/-- A deadline at most that of the current attempt. -/
def Due (s : ExitRace) (deadline : ℕ) : Prop :=
  ∃ attempt, s.control.attempt = some attempt ∧ deadline ≤ attempt.deadline

/-- The call has woken the session, or is going to. -/
def Promised (s : ExitRace) : Prop :=
  s.Woken session ∨
    (∃ deadline, s.caller = .taking deadline) ∨
    ∃ deadline, s.caller = .invoking (some session) deadline ∧ s.Due deadline

/-! ## The invariant -/

variable {session call} {earlier : List ExitCall} {s s' : ExitRace} {actions : List RaceAction}

/-- The actor has seen the flag, or is going to. -/
def Saw (earlier : List ExitCall) (s : ExitRace) : Prop :=
  earlier ≠ [] ∨ s.readAfterLocked = true

/-- What the call owes, by where it stands. -/
def CallerDue (session : ℕ) (s : ExitRace) : Prop :=
  match s.caller with
  | .called => s.tookAfterStore = false
  | .taking deadline => s.Due deadline ∧ s.tookAfterStore = false
  | .invoking hook deadline =>
    (hook = some session ∧ s.tookAfterStore = true ∧ s.Due deadline) ∨
      (hook = none ∧ s.tookAfterStore = false)
  | .returned => s.tookAfterStore = true → s.Woken session

/-- What the actor owes, by where it stands. -/
def AttacherDue (session : ℕ) (earlier : List ExitCall) (s : ExitRace) : Prop :=
  match s.attacher with
  | .called => s.readAfterLocked = false
  | .read alreadyCancelled => alreadyCancelled = true ↔ Saw earlier s
  | .stored => Saw earlier s
  | .taking deadline => Saw earlier s ∧ (s.Due deadline ∨ s.Promised session)
  | .invoking hook deadline =>
    Saw earlier s ∧ hook = some session ∧ (s.Due deadline ∨ s.Promised session)
  | .returned => Saw earlier s → s.Promised session

/-- Both threads do what they owe, and the hook of the session is only called by one of them. -/
structure Raced (session : ℕ) (earlier : List ExitCall) (s : ExitRace) : Prop where
  cancelled_iff : s.control.cancelled = true ↔ earlier ≠ [] ∨ s.caller ≠ .called
  attempt_isSome : s.control.attempt.isSome = s.control.cancelled
  hook_eq : s.control.cancellationHook = if s.attacher.early then none else some session
  callerDue : CallerDue session s
  attacherDue : AttacherDue session earlier s
  readLate : s.readAfterLocked = true → s.caller ≠ .called
  silent : s.tookAfterStore = false → ¬ Saw earlier s → s.invoked = []

lemma settled_afterCalls (earlier : List ExitCall) :
    ((ExitControl.afterCalls earlier).cancelled = true ↔ earlier ≠ []) ∧
      (ExitControl.afterCalls earlier).attempt.isSome =
        (ExitControl.afterCalls earlier).cancelled ∧
      (ExitControl.afterCalls earlier).cancellationHook = none := by
  induction earlier using List.reverseRecOn with
  | nil => simp [ExitControl.afterCalls, ExitControl.new]
  | append_singleton earlier call ih =>
    have hsnoc : ExitControl.afterCalls (earlier ++ [call]) =
        ((ExitControl.afterCalls earlier).request call).1 := by
      rw [ExitControl.afterCalls, List.foldl_append]
      rfl
    obtain ⟨hcancelled, hhook, hattempt⟩ :=
      ExitControl.request_cases (ExitControl.afterCalls earlier) call
    rw [hsnoc]
    refine ⟨by simp [hcancelled], ?_, hhook.trans ih.2.2⟩
    rw [hcancelled]
    rcases hattempt with ⟨attempt, hsome, -⟩ | ⟨hsame, hsome, -⟩
    · rw [hsome]
      rfl
    · rw [hsame, hsome]

lemma raced_initial (session : ℕ) (earlier : List ExitCall) :
    Raced session earlier (initial earlier) := by
  obtain ⟨hcancelled, hattempt, hhook⟩ := settled_afterCalls earlier
  exact ⟨by simpa [initial] using hcancelled, hattempt, hhook, rfl, rfl, by simp [initial],
    fun _ _ => rfl⟩

lemma Woken.mono (h : s.Woken session) (hattempt : s'.control.attempt = s.control.attempt)
    (hinvoked : s.invoked ⊆ s'.invoked) : s'.Woken session := by
  obtain ⟨attempt, hsome, deadline, hle, hmem⟩ := h
  exact ⟨attempt, hattempt.trans hsome, deadline, hle, hinvoked hmem⟩

variable {deadline : ℕ}

lemma Due.mono (h : s.Due deadline) (hattempt : s'.control.attempt = s.control.attempt) :
    s'.Due deadline := by
  obtain ⟨attempt, hsome, hle⟩ := h
  exact ⟨attempt, hattempt.trans hsome, hle⟩

lemma Promised.mono (h : s.Promised session) (hattempt : s'.control.attempt = s.control.attempt)
    (hinvoked : s.invoked ⊆ s'.invoked) (hcaller : s'.caller = s.caller) :
    s'.Promised session := by
  rcases h with hwoken | ⟨deadline, htaking⟩ | ⟨deadline, hinvoking, hdue⟩
  · exact Or.inl (hwoken.mono hattempt hinvoked)
  · exact Or.inr (Or.inl ⟨deadline, hcaller.trans htaking⟩)
  · exact Or.inr (Or.inr ⟨deadline, hcaller.trans hinvoking, hdue.mono hattempt⟩)

/-- What the call owes does not depend on the actor, apart from what was invoked. -/
lemma CallerDue.mono (h : CallerDue session s) (hattempt : s'.control.attempt = s.control.attempt)
    (hinvoked : s.invoked ⊆ s'.invoked) (hcaller : s'.caller = s.caller)
    (htook : s'.tookAfterStore = s.tookAfterStore) : CallerDue session s' := by
  unfold CallerDue at h ⊢
  rw [hcaller, htook]
  cases hs : s.caller with
  | called => simpa [hs] using h
  | taking deadline =>
    simp only [hs] at h
    exact ⟨h.1.mono hattempt, h.2⟩
  | invoking hook deadline =>
    simp only [hs] at h
    rcases h with ⟨hhook, htrue, hdue⟩ | hnone
    · exact Or.inl ⟨hhook, htrue, hdue.mono hattempt⟩
    · exact Or.inr hnone
  | returned =>
    simp only [hs] at h
    exact fun htrue => (h htrue).mono hattempt hinvoked

/-- What the actor owes stays, when what was due stays due and what was promised stays so. -/
lemma AttacherDue.mono (h : AttacherDue session earlier s) (hattacher : s'.attacher = s.attacher)
    (hread : s'.readAfterLocked = s.readAfterLocked)
    (hdue : s.attacher.early = false → ∀ deadline, s.Due deadline ∨ s.Promised session →
      s'.Due deadline ∨ s'.Promised session)
    (hpromised : s.attacher.early = false → s.Promised session → s'.Promised session) :
    AttacherDue session earlier s' := by
  have hsaw : Saw earlier s' ↔ Saw earlier s := by rw [Saw, Saw, hread]
  unfold AttacherDue at h ⊢
  rw [hattacher]
  cases hs : s.attacher with
  | called =>
    simp only [hs] at h
    exact hread.trans h
  | read alreadyCancelled =>
    simp only [hs] at h
    exact h.trans hsaw.symm
  | stored =>
    simp only [hs] at h
    exact hsaw.mpr h
  | taking deadline =>
    simp only [hs] at h
    exact ⟨hsaw.mpr h.1, hdue (by rw [hs]; rfl) deadline h.2⟩
  | invoking hook deadline =>
    simp only [hs] at h
    exact ⟨hsaw.mpr h.1, h.2.1, hdue (by rw [hs]; rfl) deadline h.2.2⟩
  | returned =>
    simp only [hs] at h
    exact fun hyes => hpromised (by rw [hs]; rfl) (h (hsaw.mp hyes))

/-! ## The steps of the call -/

lemma Raced.locked (h : Raced session earlier s) (hs : s.caller = .called) :
    Raced session earlier { s with
      control := (s.control.request call).1
      caller := match (s.control.request call).2 with
        | some deadline => .taking deadline
        | none => .returned } := by
  obtain ⟨hcancelled, hhook, hattempt⟩ := ExitControl.request_cases s.control call
  have htook : s.tookAfterStore = false := by simpa [CallerDue, hs] using h.callerDue
  rcases hattempt with ⟨attempt, hsome, hdeadline⟩ | ⟨hsame, hsome, hnone⟩
  · simp only [hdeadline]
    constructor
    · simp [hcancelled]
    · rw [hcancelled, hsome]
      rfl
    · exact hhook.trans h.hook_eq
    · exact ⟨⟨attempt, hsome, Nat.le_refl _⟩, htook⟩
    · refine h.attacherDue.mono rfl rfl ?_ ?_
      · exact fun _ _ _ => Or.inr (Or.inr (Or.inl ⟨_, rfl⟩))
      · exact fun _ _ => Or.inr (Or.inl ⟨_, rfl⟩)
    · simp
    · exact h.silent
  · simp only [hnone]
    have hpromised : s.Promised session → s.Woken session := by
      rintro (hwoken | ⟨deadline, htaking⟩ | ⟨deadline, hinvoking, -⟩)
      · exact hwoken
      · rw [hs] at htaking
        cases htaking
      · rw [hs] at hinvoking
        cases hinvoking
    constructor
    · simp [hcancelled]
    · rw [hcancelled, hsame, hsome]
    · exact hhook.trans h.hook_eq
    · intro htrue
      rw [htook] at htrue
      cases htrue
    · refine h.attacherDue.mono rfl rfl ?_ ?_
      · rintro - deadline (hdue | hp)
        · exact Or.inl (hdue.mono hsame)
        · exact Or.inr (Or.inl ((hpromised hp).mono hsame (List.Subset.refl _)))
      · exact fun _ hp => Or.inl ((hpromised hp).mono hsame (List.Subset.refl _))
    · simp
    · exact h.silent

lemma Raced.take (h : Raced session earlier s) (hs : s.caller = .taking deadline) :
    Raced session earlier { s with
      caller := .invoking s.control.cancellationHook deadline
      tookAfterStore := s.control.cancellationHook = some session } := by
  have hcallerDue := h.callerDue
  simp only [CallerDue, hs] at hcallerDue
  obtain ⟨hdue, htook⟩ := hcallerDue
  have hhook := h.hook_eq
  constructor
  · simpa [hs] using h.cancelled_iff
  · exact h.attempt_isSome
  · exact h.hook_eq
  · cases hearly : s.attacher.early with
    | true =>
      have hnone : s.control.cancellationHook = none := by simpa [hearly] using hhook
      exact Or.inr ⟨hnone, by simp [hnone]⟩
    | false =>
      have hsome : s.control.cancellationHook = some session := by simpa [hearly] using hhook
      exact Or.inl ⟨hsome, by simp [hsome], hdue⟩
  · have hpromised : s.attacher.early = false →
        Promised session { s with
          caller := .invoking s.control.cancellationHook deadline
          tookAfterStore := s.control.cancellationHook = some session } := by
      intro hearly
      have hsome : s.control.cancellationHook = some session := by simpa [hearly] using hhook
      exact Or.inr (Or.inr ⟨deadline, by simp [hsome], hdue⟩)
    refine h.attacherDue.mono rfl rfl ?_ ?_
    · exact fun hearly _ _ => Or.inr (hpromised hearly)
    · exact fun hearly _ => hpromised hearly
  · simp
  · intro _ hsaw
    exact h.silent htook hsaw

lemma Raced.invoke {hook : Option ℕ} (h : Raced session earlier s)
    (hs : s.caller = .invoking hook deadline) :
    Raced session earlier { s with caller := .returned, invoked := s.invoke hook deadline } := by
  have hcallerDue := h.callerDue
  simp only [CallerDue, hs] at hcallerDue
  have hsub : s.invoked ⊆ s.invoke hook deadline := List.subset_append_left _ _
  rcases hcallerDue with ⟨rfl, htook, hdue⟩ | ⟨rfl, htook⟩
  · have hwoken : Woken session { s with
        caller := .returned, invoked := s.invoke (some session) deadline } := by
      obtain ⟨attempt, hsome, hle⟩ := hdue
      exact ⟨attempt, hsome, deadline, hle, by simp [ExitRace.invoke]⟩
    constructor
    · simpa [hs] using h.cancelled_iff
    · exact h.attempt_isSome
    · exact h.hook_eq
    · exact fun _ => hwoken
    · exact h.attacherDue.mono rfl rfl (fun _ _ _ => Or.inr (Or.inl hwoken))
        (fun _ _ => Or.inl hwoken)
    · simp
    · intro hfalse
      simp [htook] at hfalse
  · have hpromised : s.Promised session → Promised session { s with
        caller := .returned, invoked := s.invoke none deadline } := by
      rintro (hwoken | ⟨other, htaking⟩ | ⟨other, hinvoking, -⟩)
      · exact Or.inl (hwoken.mono rfl hsub)
      · rw [hs] at htaking
        cases htaking
      · rw [hs] at hinvoking
        cases hinvoking
    constructor
    · simpa [hs] using h.cancelled_iff
    · exact h.attempt_isSome
    · exact h.hook_eq
    · intro htrue
      simp [htook] at htrue
    · refine h.attacherDue.mono rfl rfl ?_ (fun _ => hpromised)
      exact fun _ _ => Or.imp id hpromised
    · simp
    · intro hfalse hsaw
      simpa [ExitRace.invoke] using h.silent hfalse hsaw

/-! ## The steps of the actor -/

lemma Raced.attachRead (h : Raced session earlier s) (hs : s.attacher = .called) :
    Raced session earlier { s with
      attacher := .read s.control.cancelled
      readAfterLocked := s.caller ≠ .called } := by
  have hread : s.readAfterLocked = false := by simpa [AttacherDue, hs] using h.attacherDue
  constructor
  · exact h.cancelled_iff
  · exact h.attempt_isSome
  · simpa [hs, Attacher.early] using h.hook_eq
  · exact h.callerDue.mono rfl (List.Subset.refl _) rfl rfl
  · show s.control.cancelled = true ↔ _
    rw [h.cancelled_iff]
    simp [Saw]
  · simp
  · intro htook hsaw
    refine h.silent htook ?_
    rintro (hearlier | htrue)
    · exact hsaw (Or.inl hearlier)
    · rw [hread] at htrue
      cases htrue

lemma Raced.attachStore {alreadyCancelled : Bool} (h : Raced session earlier s)
    (hs : s.attacher = .read alreadyCancelled) :
    Raced session earlier { s with
      control := { s.control with cancellationHook := some session }
      attacher := if alreadyCancelled then .stored else .returned } := by
  have hsaw : alreadyCancelled = true ↔ Saw earlier s := by
    simpa [AttacherDue, hs] using h.attacherDue
  constructor
  · exact h.cancelled_iff
  · exact h.attempt_isSome
  · cases alreadyCancelled <;> simp [Attacher.early]
  · exact h.callerDue.mono rfl (List.Subset.refl _) rfl rfl
  · cases alreadyCancelled with
    | true => exact hsaw.mp rfl
    | false => exact fun hyes => absurd (hsaw.mpr hyes) (by simp)
  · exact h.readLate
  · exact h.silent

lemma Raced.attachDeadline (h : Raced session earlier s) (hs : s.attacher = .stored) :
    Raced session earlier { s with attacher := match s.control.attempt with
      | some attempt => .taking attempt.deadline
      | none => .returned } := by
  have hsaw : Saw earlier s := by simpa [AttacherDue, hs] using h.attacherDue
  have hcancelled : s.control.cancelled = true := by
    rw [h.cancelled_iff]
    exact hsaw.imp id h.readLate
  cases hattempt : s.control.attempt with
  | none =>
    have hsome := h.attempt_isSome
    rw [hattempt, hcancelled] at hsome
    cases hsome
  | some attempt =>
    constructor
    · exact h.cancelled_iff
    · exact h.attempt_isSome
    · simpa [hs, Attacher.early] using h.hook_eq
    · exact h.callerDue.mono rfl (List.Subset.refl _) rfl rfl
    · exact ⟨hsaw, Or.inl ⟨attempt, hattempt, Nat.le_refl _⟩⟩
    · exact h.readLate
    · exact h.silent

lemma Raced.attachTake (h : Raced session earlier s) (hs : s.attacher = .taking deadline) :
    Raced session earlier { s with
      attacher := .invoking s.control.cancellationHook deadline } := by
  have hdue := h.attacherDue
  simp only [AttacherDue, hs] at hdue
  have hhook : s.control.cancellationHook = some session := by
    simpa [hs, Attacher.early] using h.hook_eq
  constructor
  · exact h.cancelled_iff
  · exact h.attempt_isSome
  · simpa [Attacher.early] using hhook
  · exact h.callerDue.mono rfl (List.Subset.refl _) rfl rfl
  · refine ⟨hdue.1, hhook, hdue.2.imp (fun hd => hd.mono rfl) fun hp => ?_⟩
    exact hp.mono rfl (List.Subset.refl _) rfl
  · exact h.readLate
  · exact h.silent

lemma Raced.attachInvoke {hook : Option ℕ} (h : Raced session earlier s)
    (hs : s.attacher = .invoking hook deadline) :
    Raced session earlier { s with attacher := .returned, invoked := s.invoke hook deadline } := by
  have hdue := h.attacherDue
  simp only [AttacherDue, hs] at hdue
  obtain ⟨hsaw, rfl, hdue⟩ := hdue
  have hsub : s.invoked ⊆ s.invoke (some session) deadline := List.subset_append_left _ _
  constructor
  · exact h.cancelled_iff
  · exact h.attempt_isSome
  · simpa [hs, Attacher.early] using h.hook_eq
  · exact h.callerDue.mono rfl hsub rfl rfl
  · intro _
    rcases hdue with ⟨attempt, hsome, hle⟩ | hpromised
    · exact Or.inl ⟨attempt, hsome, deadline, hle, by simp [ExitRace.invoke]⟩
    · exact hpromised.mono rfl hsub rfl
  · exact h.readLate
  · exact fun _ hnot => absurd hsaw hnot

lemma Raced.step {action : RaceAction} (h : Raced session earlier s)
    (hstep : Step session call s action s') : Raced session earlier s' := by
  unfold Step after at hstep
  cases action with
  | locked =>
    simp only at hstep
    split at hstep
    · next hs =>
      obtain rfl := Option.some.inj hstep
      exact h.locked hs
    · cases hstep
  | take =>
    simp only at hstep
    split at hstep
    · next deadline hs =>
      obtain rfl := Option.some.inj hstep
      exact h.take hs
    · cases hstep
  | invoke =>
    simp only at hstep
    split at hstep
    · next hook deadline hs =>
      obtain rfl := Option.some.inj hstep
      exact h.invoke hs
    · cases hstep
  | attachRead =>
    simp only at hstep
    split at hstep
    · next hs =>
      obtain rfl := Option.some.inj hstep
      exact h.attachRead hs
    · cases hstep
  | attachStore =>
    simp only at hstep
    split at hstep
    · next alreadyCancelled hs =>
      obtain rfl := Option.some.inj hstep
      exact h.attachStore hs
    · cases hstep
  | attachDeadline =>
    simp only at hstep
    split at hstep
    · next hs =>
      obtain rfl := Option.some.inj hstep
      exact h.attachDeadline hs
    · cases hstep
  | attachTake =>
    simp only at hstep
    split at hstep
    · next deadline hs =>
      obtain rfl := Option.some.inj hstep
      exact h.attachTake hs
    · cases hstep
  | attachInvoke =>
    simp only at hstep
    split at hstep
    · next hook deadline hs =>
      obtain rfl := Option.some.inj hstep
      exact h.attachInvoke hs
    · cases hstep

lemma Raced.woken_iff (h : Raced session earlier s) (hcaller : s.caller = .returned)
    (hattacher : s.attacher = .returned) :
    s.Woken session ↔ earlier ≠ [] ∨ s.readAfterLocked = true ∨ s.tookAfterStore = true := by
  have hcallerDue := h.callerDue
  have hattacherDue := h.attacherDue
  simp only [CallerDue, hcaller] at hcallerDue
  simp only [AttacherDue, hattacher] at hattacherDue
  constructor
  · rintro ⟨attempt, -, deadline, -, hmem⟩
    by_contra hnot
    rw [not_or, not_or] at hnot
    have hsilent := h.silent (by simpa using hnot.2.2) (fun hsaw => hsaw.elim hnot.1 hnot.2.1)
    rw [hsilent] at hmem
    cases hmem
  · intro hyes
    have hcase : Saw earlier s ∨ s.tookAfterStore = true := or_assoc.mpr hyes
    rcases hcase with hsaw | htook
    · rcases hattacherDue hsaw with hwoken | ⟨deadline, htaking⟩ | ⟨deadline, hinvoking, -⟩
      · exact hwoken
      · rw [hcaller] at htaking
        cases htaking
      · rw [hcaller] at hinvoking
        cases hinvoking
    · exact hcallerDue htook

/-- **When the exit reaches the session**: once both calls have returned, exactly when there was an
attempt before, or the actor read the flag after the call had set it, or the call read the hook
after the actor had stored it.  And a sequence of calls is steady exactly when no retry runs out of
numbers. -/
theorem exit_cancellation_iff (session : ℕ) (call : ExitCall) (earlier : List ExitCall)
    (actions : List RaceAction) (s : ExitRace) (calls : List ExitCall) :
    (Run (Step session call) (initial earlier) actions s →
      s.caller = .returned → s.attacher = .returned →
      (s.Woken session ↔
        earlier ≠ [] ∨ s.readAfterLocked = true ∨ s.tookAfterStore = true)) ∧
    (ExitControl.Steady calls ↔
      ∀ pre next, pre ++ [next] <+: calls →
        ¬ ExitControl.Saturates (ExitControl.afterCalls pre) next) := by
  refine ⟨?_, ExitControl.steady_iff calls⟩
  intro hrun hcaller hattacher
  have hraced : Raced session earlier s :=
    hrun.stateInvariant (raced_initial session earlier) fun h hstep => h.step hstep
  exact hraced.woken_iff hcaller hattacher

/-- The actor reads the flag first, and the call reads the hook before it is stored. -/
def missedActions : List RaceAction :=
  [.attachRead, .locked, .take, .invoke, .attachStore]

def missedState : ExitRace :=
  ⟨⟨some ⟨1, 500⟩, true, some 3⟩, .returned, .returned, [], false, false⟩

lemma run_missedActions :
    Run (Step 3 ⟨false, none, 500⟩) (initial []) missedActions missedState := by
  have hrun : missedActions.foldlM (after 3 ⟨false, none, 500⟩) (initial []) = some missedState := by
    decide
  exact Run.of_foldlM hrun fun _ _ _ _ h => h

theorem exit_cancellation_iff_missed :
    missedState.Woken 3 ↔ ([] : List ExitCall) ≠ [] ∨ missedState.readAfterLocked = true ∨
      missedState.tookAfterStore = true :=
  (exit_cancellation_iff 3 ⟨false, none, 500⟩ [] missedActions missedState []).1 run_missedActions
    rfl rfl

/-- Then the application leaves and the session of the actor is never told. -/
theorem cancellation_missed : ¬ ∀ session call earlier actions s,
    Run (Step session call) (initial earlier) actions s →
    s.caller = .returned → s.attacher = .returned → s.Woken session := by
  intro h
  obtain ⟨attempt, -, deadline, -, hmem⟩ := h 3 _ _ _ missedState run_missedActions rfl rfl
  cases hmem

end ExitRace

end JaDesktop.Bridge
