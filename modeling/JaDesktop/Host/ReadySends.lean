import JaDesktop.Host.CodecConfinement
import JaDesktop.Host.ReadyHandshake

/-!
# The `initialized` frame

One half of the invariant of the ready handshake: at most one call is between the exchange of
`initialized_sent` and the delivery of its line, and once a line is delivered there is none and
there never will be.  A line that the writer takes for the `initialized` frame is the line with the
challenge: other frames are read back with the method they were written with, and a request cannot
be called `initialized`.
-/

namespace JaDesktop.Host

/-! ## The line that carries the challenge -/

/-- The parameters of `initialized`. -/
def tokenParams (token : String) : Value := .object [("readyToken", .string token)]

/-- The line of the `initialized` frame with a token. -/
def Carries (S : SerdeJson) (maxFrameBytes : ℕ) (token : String) (bytes : List UInt8) : Prop :=
  (RpcFrame.notification "initialized" (tokenParams token)).bind (·.encode S maxFrameBytes) =
    .ok bytes

lemma params_of_validateInitializedParams {challenge : Option String} {params : Value}
    (h : validateInitializedParams challenge params = true) :
    ∃ token, challenge = some token ∧ params = tokenParams token := by
  cases challenge with
  | none => cases h
  | some token =>
    simp only [validateInitializedParams, Option.any_eq_true, Value.asObject_eq_some,
      Bool.and_eq_true, beq_iff_eq, Option.bind_eq_some_iff, Value.asStr_eq_some,
      exists_eq_right] at h
    obtain ⟨object, rfl, ⟨hlength, htoken⟩, -⟩ := h
    obtain ⟨⟨key, child⟩, rfl⟩ := List.length_eq_one_iff.mp hlength
    have hmem := SortedMap.mem_of_get htoken
    obtain ⟨rfl, rfl⟩ : key = "readyToken" ∧ child = .string token := by
      simpa [eq_comm] using hmem
    exact ⟨token, rfl, rfl⟩

/-- A request cannot be called `initialized`: it would have to carry a token. -/
lemma method_ne_of_cleared {forbidden : List String} {message : Outbound} {frame : RpcFrame}
    (hmessage : message.initialized? = none)
    (hpayload : ¬ message.payload.any (containsForbiddenReadyToken forbidden) = true)
    (h : message.frame = .ok frame) : frame.method ≠ some "initialized" := by
  cases message with
  | notification method params =>
    obtain ⟨rfl, -⟩ := RpcFrame.validated_eq_ok.mp h
    simpa [Outbound.initialized?] using hmessage
  | request id method params =>
    obtain ⟨rfl, hvalid⟩ := RpcFrame.request_eq_ok h
    rintro ⟨⟩
    obtain ⟨-, -, object, hobject, htoken⟩ :=
      (RpcFrame.validate_eq_ok.mp hvalid).1.method "initialized" rfl
    cases hobject
    refine hpayload ?_
    obtain ⟨token, htoken, -⟩ := token_of_validate (Or.inl rfl) htoken
    have hmarker : containsTokenShapedMarker (.object object) = true :=
      Json.anyMarkMembers_iff.mpr
        ⟨"readyToken", .string token, SortedMap.mem_of_get htoken, Or.inl (by decide +kernel)⟩
    simp [Outbound.payload, containsForbiddenReadyToken, hmarker]
  | result id value =>
    obtain ⟨rfl, -⟩ := RpcFrame.validated_eq_ok.mp h
    simp
  | error id code text jaCode retryable =>
    obtain ⟨rfl, -⟩ := RpcFrame.validated_eq_ok.mp h
    simp

namespace Handshake

lemma isInitialized_encode {S : SerdeJson} (hS : S.KeepsShape) {maxFrameBytes : ℕ}
    {frame : RpcFrame} {bytes : List UInt8} (h : frame.encode S maxFrameBytes = .ok bytes)
    (hmethod : frame.method ≠ some "initialized") :
    isInitialized S maxFrameBytes bytes = false := by
  rw [isInitialized]
  split
  · rfl
  · rename_i g hg
    simpa [RpcFrame.method_of_decodeFrame hS h hg] using hmethod

/-! ## The invariant -/

/-- The call is between the exchange of `initialized_sent` and its end. -/
def active : SendCall → Bool
  | .elected _ | .prepared _ | .encoded true _ _ | .failing true _ => true
  | _ => false

/-- The call sends `initialized`, and has the right parameters. -/
def engaged : SendCall → Bool
  | .validated _ => true
  | call => active call

/-- The writer holds the guard of the barrier. -/
def guarded : WriterStage → Bool
  | .sending true _ | .written true _ | .completing _ _ => true
  | _ => false

/-- The lines that were delivered and are not being written. -/
def lines (queue : WriterQueue) (writer : WriterStage) : List (List UInt8) :=
  queue.control ++ queue.data ++ (match writer with
    | .holding bytes => [bytes]
    | _ => [])

section Invariant

variable (S : SerdeJson) (maxFrameBytes : ℕ)

/-- A line with the current challenge. -/
def Current (challenge : Option String) (bytes : List UInt8) : Prop :=
  ∃ token, challenge = some token ∧ Carries S maxFrameBytes token bytes

/-- What a call holds. -/
def CallOk (challenge : Option String) : SendCall → Prop
  | .idle | .finished | .failing _ _ => True
  | .validated params | .elected params | .prepared params =>
    ∃ token, challenge = some token ∧ params = tokenParams token
  | .cleared message =>
    ∀ frame, message.frame = .ok frame → frame.method ≠ some "initialized"
  | .encoded initialized bytes _ =>
    if initialized then Current S maxFrameBytes challenge bytes
    else isInitialized S maxFrameBytes bytes = false

/-- A line of an `initialized` frame was delivered. -/
def Delivered (queue : WriterQueue) (writer : WriterStage) (barrier : InitializedBarrierState) :
    Prop :=
  barrier ≠ .notSent ∨ ∃ bytes ∈ lines queue writer, isInitialized S maxFrameBytes bytes = true

/-- The half of the invariant about the `initialized` frame. -/
structure Sends (install : InstallStage) (challenge : Option String) (initializedSent : Bool)
    (calls : ℕ → SendCall) (queue : WriterQueue) (writer : WriterStage)
    (barrier : InitializedBarrierState) : Prop where
  held : ∀ call, CallOk S maxFrameBytes challenge (calls call)
  queued : ∀ bytes ∈ lines queue writer, isInitialized S maxFrameBytes bytes = true →
    Current S maxFrameBytes challenge bytes
  sending : barrier = .sending ↔ guarded writer = true
  writing : ∀ bytes, writer = .sending true bytes → Current S maxFrameBytes challenge bytes
  elected : ∀ call, active (calls call) = true → initializedSent = true
  unique : ∀ call other, active (calls call) = true → active (calls other) = true → call = other
  delivered : Delivered S maxFrameBytes queue writer barrier →
    initializedSent = true ∧ ∀ call, active (calls call) = false
  unset : (install = .absent ∨ ∃ token, install = .forbidden token) → challenge = none
  /-- Nothing of this has begun before the challenge is installed. -/
  dormant : install ≠ .done → ¬ Delivered S maxFrameBytes queue writer barrier ∧
    ∀ call, engaged (calls call) = false

end Invariant

/-! ## The moves -/

section Sends

variable {S : SerdeJson} {maxFrameBytes : ℕ} {install install' : InstallStage}
  {challenge challenge' : Option String} {initializedSent initializedSent' : Bool}
  {calls : ℕ → SendCall} {queue queue' : WriterQueue} {writer writer' : WriterStage}
  {barrier barrier' : InitializedBarrierState}

lemma engaged_of_active {call : SendCall} (h : active call = true) : engaged call = true := by
  cases call <;> simp_all [engaged, active]

/-- A call that does not send `initialized` does not depend on the challenge. -/
lemma CallOk.rechallenge {call : SendCall} (h : CallOk S maxFrameBytes challenge call)
    (hengaged : engaged call = false) : CallOk S maxFrameBytes challenge' call := by
  cases call with
  | idle | finished | failing => trivial
  | validated | elected | prepared => cases hengaged
  | cleared message => exact h
  | encoded initialized bytes priority =>
    cases initialized with
    | false => exact h
    | true => cases hengaged

variable {call : ℕ} {next : SendCall}

section

variable (h : Sends S maxFrameBytes install challenge initializedSent calls queue writer barrier)

include h

lemma Sends.goto (hok : CallOk S maxFrameBytes challenge next)
    (hsent : initializedSent = true → initializedSent' = true ∨ active (calls call) = true)
    (hactive : active next = true →
      initializedSent' = true ∧ (initializedSent = false ∨ active (calls call) = true))
    (hengaged : engaged next = true → install = .done) :
    Sends S maxFrameBytes install challenge initializedSent' (Function.update calls call next)
      queue writer barrier := by
  have hself : Function.update calls call next call = next := Function.update_self ..
  have hother : ∀ {other}, other ≠ call → Function.update calls call next other = calls other :=
    fun hne => Function.update_of_ne hne ..
  refine ⟨?_, h.queued, h.sending, h.writing, ?_, ?_, ?_, h.unset, ?_⟩
  · intro other
    by_cases heq : other = call
    · subst heq
      rwa [hself]
    · rw [hother heq]
      exact h.held other
  · intro other hact
    by_cases heq : other = call
    · subst heq
      rw [hself] at hact
      exact (hactive hact).1
    · rw [hother heq] at hact
      refine (hsent (h.elected other hact)).resolve_right fun hcall => ?_
      exact heq (h.unique other call hact hcall)
  · -- the call that moves is the only active one, or it was active before
    have hone : ∀ other, other ≠ call → active next = true → active (calls other) = true → False := by
      intro other hne hnext hact
      rcases (hactive hnext).2 with hfalse | hcall
      · rw [h.elected other hact] at hfalse
        cases hfalse
      · exact hne (h.unique other call hact hcall)
    intro one other hone' hother'
    by_cases h₁ : one = call
    · by_cases h₂ : other = call
      · rw [h₁, h₂]
      · subst h₁
        rw [hself] at hone'
        rw [hother h₂] at hother'
        exact (hone other h₂ hone' hother').elim
    · by_cases h₂ : other = call
      · subst h₂
        rw [hself] at hother'
        rw [hother h₁] at hone'
        exact (hone one h₁ hother' hone').elim
      · rw [hother h₁] at hone'
        rw [hother h₂] at hother'
        exact h.unique one other hone' hother'
  · intro hdelivered
    obtain ⟨htrue, hnone⟩ := h.delivered hdelivered
    refine ⟨(hsent htrue).resolve_right (by simp [hnone call]), fun other => ?_⟩
    by_cases heq : other = call
    · subst heq
      rw [hself, Bool.eq_false_iff]
      intro hact
      rcases (hactive hact).2 with hfalse | hcall
      · rw [htrue] at hfalse
        cases hfalse
      · rw [hnone other] at hcall
        cases hcall
    · rw [hother heq]
      exact hnone other
  · intro hne
    obtain ⟨hnot, hnone⟩ := h.dormant hne
    refine ⟨hnot, fun other => ?_⟩
    by_cases heq : other = call
    · subst heq
      rw [hself, Bool.eq_false_iff]
      exact fun heng => hne (hengaged heng)
    · rw [hother heq]
      exact hnone other

/-- A call that sends `initialized` runs after the installation. -/
lemma Sends.done (hcall : engaged (calls call) = true) : install = .done := by
  by_contra hne
  rw [(h.dormant hne).2 call] at hcall
  cases hcall

/-- A call ends, or moves to a stage that has nothing to do with `initialized`. -/
lemma Sends.leave (hok : CallOk S maxFrameBytes challenge next) (hengaged : engaged next = false) :
    Sends S maxFrameBytes install challenge initializedSent (Function.update calls call next)
      queue writer barrier := by
  have hactive : active next = false := by
    rw [Bool.eq_false_iff] at hengaged ⊢
    exact fun hact => hengaged (engaged_of_active hact)
  refine h.goto hok Or.inl ?_ ?_
  · rw [hactive]
    rintro ⟨⟩
  · rw [hengaged]
    rintro ⟨⟩

/-- An active call gives up, and resets `initialized_sent`. -/
lemma Sends.reset (hcall : active (calls call) = true) :
    Sends S maxFrameBytes install challenge false (Function.update calls call .finished)
      queue writer barrier :=
  h.goto trivial (fun _ => Or.inr hcall) (by rintro ⟨⟩) (by rintro ⟨⟩)

lemma Sends.proceed (hcall : active (calls call) = true)
    (hok : CallOk S maxFrameBytes challenge next) :
    Sends S maxFrameBytes install challenge initializedSent (Function.update calls call next)
      queue writer barrier :=
  h.goto hok Or.inl (fun _ => ⟨h.elected call hcall, Or.inr hcall⟩)
    fun _ => h.done (engaged_of_active hcall)

lemma Sends.not_delivered (hcall : active (calls call) = true) :
    ¬ Delivered S maxFrameBytes queue writer barrier := by
  intro hdelivered
  rw [(h.delivered hdelivered).2 call] at hcall
  cases hcall

end

lemma mem_lines_push {bytes line : List UInt8} {priority : EventPriority}
    (h : line ∈ lines (queue.push bytes priority) writer) :
    line = bytes ∨ line ∈ lines queue writer := by
  cases priority <;> simp only [lines, WriterQueue.push, List.mem_append, List.mem_singleton] at * <;>
    tauto

section

variable (h : Sends S maxFrameBytes install challenge initializedSent calls queue writer barrier)

include h

lemma Sends.push {initialized : Bool} {bytes : List UInt8} {priority : EventPriority}
    (hcall : calls call = .encoded initialized bytes priority) :
    Sends S maxFrameBytes install challenge initializedSent
      (Function.update calls call .finished) (queue.push bytes priority) writer barrier := by
  have hheld := h.held call
  rw [hcall] at hheld
  have hleave : Sends S maxFrameBytes install challenge initializedSent
      (Function.update calls call .finished) queue writer barrier := h.leave trivial rfl
  -- an `initialized` line comes from the one active call
  have hline : isInitialized S maxFrameBytes bytes = true →
      Current S maxFrameBytes challenge bytes ∧ initializedSent = true ∧
      (∀ other, active (Function.update calls call .finished other) = false) ∧
      install = .done := by
    intro hinitialized
    cases initialized with
    | false => exact absurd (hinitialized.symm.trans hheld) (by simp)
    | true =>
      have hactive : active (calls call) = true := by rw [hcall]; rfl
      refine ⟨hheld, h.elected call hactive, fun other => ?_, h.done (engaged_of_active hactive)⟩
      by_cases heq : other = call
      · subst heq
        rw [Function.update_self]
        rfl
      · rw [Function.update_of_ne heq, Bool.eq_false_iff]
        exact fun hact => heq (h.unique other call hact hactive)
  have hdelivered : Delivered S maxFrameBytes (queue.push bytes priority) writer barrier →
      Delivered S maxFrameBytes queue writer barrier ∨ isInitialized S maxFrameBytes bytes = true := by
    rintro (hbarrier | ⟨line, hmem, hinitialized⟩)
    · exact Or.inl (Or.inl hbarrier)
    · rcases mem_lines_push hmem with rfl | hmem
      · exact Or.inr hinitialized
      · exact Or.inl (Or.inr ⟨line, hmem, hinitialized⟩)
  refine ⟨hleave.held, ?_, h.sending, h.writing, hleave.elected, hleave.unique, ?_, h.unset, ?_⟩
  · intro line hmem hinitialized
    rcases mem_lines_push hmem with rfl | hmem
    · exact (hline hinitialized).1
    · exact h.queued line hmem hinitialized
  · intro hd
    rcases hdelivered hd with hd | hinitialized
    · exact hleave.delivered hd
    · exact ⟨(hline hinitialized).2.1, (hline hinitialized).2.2.1⟩
  · intro hne
    refine ⟨fun hd => ?_, (hleave.dormant hne).2⟩
    rcases hdelivered hd with hd | hinitialized
    · exact (h.dormant hne).1 hd
    · exact hne (hline hinitialized).2.2.2

lemma Sends.rewrite (hlines : ∀ line ∈ lines queue' writer', line ∈ lines queue writer)
    (hguarded : guarded writer' = guarded writer)
    (hwriting : ∀ bytes, writer' ≠ .sending true bytes) :
    Sends S maxFrameBytes install challenge initializedSent calls queue' writer' barrier := by
  have hdelivered : Delivered S maxFrameBytes queue' writer' barrier →
      Delivered S maxFrameBytes queue writer barrier := by
    rintro (hbarrier | ⟨line, hmem, hinitialized⟩)
    · exact Or.inl hbarrier
    · exact Or.inr ⟨line, hlines line hmem, hinitialized⟩
  refine ⟨h.held, ?_, ?_, ?_, h.elected, h.unique, ?_, h.unset, ?_⟩
  · exact fun line hmem => h.queued line (hlines line hmem)
  · rw [hguarded]
    exact h.sending
  · exact fun bytes heq => absurd heq (hwriting bytes)
  · exact fun hd => h.delivered (hdelivered hd)
  · exact fun hne => ⟨fun hd => (h.dormant hne).1 (hdelivered hd), (h.dormant hne).2⟩

lemma Sends.turn (hdelivered : Delivered S maxFrameBytes queue writer barrier)
    (hlines : ∀ line ∈ lines queue writer', line ∈ lines queue writer)
    (hsending : barrier' = .sending ↔ guarded writer' = true)
    (hwriting : ∀ bytes, writer' = .sending true bytes → Current S maxFrameBytes challenge bytes) :
    Sends S maxFrameBytes install challenge initializedSent calls queue writer' barrier' := by
  refine ⟨h.held, ?_, hsending, hwriting, h.elected, h.unique, ?_, h.unset, ?_⟩
  · exact fun line hmem => h.queued line (hlines line hmem)
  · exact fun _ => h.delivered hdelivered
  · exact fun hne => absurd hdelivered (h.dormant hne).1

lemma Sends.notSent (hne : install ≠ .done) : barrier = .notSent := by
  by_contra hbarrier
  exact (h.dormant hne).1 (Or.inl hbarrier)

end

/-- A step of the installation: nothing has begun, so nothing is disturbed. -/
lemma Sends.installs
    (h : Sends S maxFrameBytes install challenge initializedSent calls queue writer .notSent)
    (hne : install ≠ .done)
    (hunset : (install' = .absent ∨ ∃ token, install' = .forbidden token) → challenge' = none) :
    Sends S maxFrameBytes install' challenge' initializedSent' calls queue writer .notSent := by
  obtain ⟨hnot, hnone⟩ := h.dormant hne
  have hinactive : ∀ call, ¬ active (calls call) = true := by
    intro call hact
    have hengaged := engaged_of_active hact
    rw [hnone call] at hengaged
    cases hengaged
  refine ⟨?_, ?_, h.sending, ?_, ?_, ?_, ?_, hunset, ?_⟩
  · exact fun call => (h.held call).rechallenge (hnone call)
  · exact fun line hmem hinitialized => absurd (Or.inr ⟨line, hmem, hinitialized⟩) hnot
  · rintro bytes rfl
    cases h.sending.mpr rfl
  · exact fun call hact => absurd hact (hinactive call)
  · exact fun call _ hact => absurd hact (hinactive call)
  · exact fun hd => absurd hd hnot
  · exact fun _ => ⟨hnot, hnone⟩

end Sends

end Handshake

end JaDesktop.Host
