import JaDesktop.Host.ReadySends

/-!
# The flags of the ready handshake

The other half of the invariant: whoever has seen the barrier confirmed, the claim made or the
session open can rely on it, and each entry of the log is allowed by the entries before it.
-/

namespace JaDesktop.Host.Handshake

/-! ## The log -/

/-- The line with the challenge was flushed. -/
def Flushed (S : SerdeJson) (maxFrameBytes : ℕ) (log : List HandshakeEvent) : Prop :=
  ∃ token bytes, .installed token ∈ log ∧ .flushed bytes ∈ log ∧ Carries S maxFrameBytes token bytes

lemma Flushed.snoc {S : SerdeJson} {maxFrameBytes : ℕ} {log : List HandshakeEvent}
    (h : Flushed S maxFrameBytes log) (event : HandshakeEvent) :
    Flushed S maxFrameBytes (log ++ [event]) := by
  obtain ⟨token, bytes, htoken, hbytes, hcarries⟩ := h
  exact ⟨token, bytes, List.mem_append_left _ htoken, List.mem_append_left _ hbytes, hcarries⟩

/-- The entry of the log is allowed by the entries before it. -/
def Allowed (S : SerdeJson) (maxFrameBytes : ℕ) (past : List HandshakeEvent) : HandshakeEvent → Prop
  | .installed _ => ∀ token, .installed token ∉ past
  | .flushed _ | .received _ | .answered _ false => True
  | .confirmed => Flushed S maxFrameBytes past
  | .answered _ true => .confirmed ∈ past ∧ ∀ frame, .answered frame true ∉ past
  | .promoted frame closed => closed = false ∧ (∃ frame, .answered frame true ∈ past) ∧
      (∃ token, .installed token ∈ past ∧ frame.readyToken = some token) ∧
      ∀ frame closed, .promoted frame closed ∉ past

/-! ## The invariant -/

/-- What a promotion can rely on. -/
def GateOk (challenge : Option String) (barrier : InitializedBarrierState)
    (claimed consumed closed : Bool) (log : List HandshakeEvent) : GateHolder → Prop
  | .free | .promoting .entered _ => True
  | .closing => closed = true
  | .promoting .opened _ | .promoting .reopened _ => closed = false
  | .promoting .confirmed _ => closed = false ∧ barrier = .confirmed
  | .promoting .claimed _ => closed = false ∧ barrier = .confirmed ∧ claimed = true
  | .promoting (.expecting expected) _ =>
    closed = false ∧ barrier = .confirmed ∧ claimed = true ∧ challenge = some expected
  | .promoting .safe frame => closed = false ∧ barrier = .confirmed ∧ claimed = true ∧
      ∃ token, challenge = some token ∧ frame.readyToken = some token
  | .promoting .consumed frame => closed = false ∧ barrier = .confirmed ∧ claimed = true ∧
      (∃ token, challenge = some token ∧ frame.readyToken = some token) ∧ consumed = true ∧
      ∀ frame closed, .promoted frame closed ∉ log

/-- The reader is at work on a frame. -/
def Busy (frame : RpcFrame) (reader : ReaderStage) : Prop :=
  reader = .dispatching frame ∨ reader = .audited frame ∨ reader = .opened frame ∨
    reader = .passed frame

/-- A notification that says that the sidecar is ready. -/
def IsReadyNotification (frame : RpcFrame) : Prop :=
  frame.validate = .ok .notification ∧ frame.isReady = true

/-- Every ready frame that the reader took is answered, or the reader is at work on it. -/
def Attended (reader : ReaderStage) (log : List HandshakeEvent) : Prop :=
  ∀ past frame rest, log = past ++ .received frame :: rest → IsReadyNotification frame →
    (∃ granted, .answered frame granted ∈ rest) ∨ Busy frame reader

/-- The half of the invariant about the flags and the log. -/
structure Flags (S : SerdeJson) (maxFrameBytes : ℕ) (challenge : Option String)
    (barrier : InitializedBarrierState) (claimed consumed closed : Bool) (gate : GateHolder)
    (writer : WriterStage) (reader : ReaderStage) (log : List HandshakeEvent) : Prop where
  justified : Justified (Allowed S maxFrameBytes) log
  installed : ∀ token, challenge = some token ↔ .installed token ∈ log
  confirmed : barrier = .confirmed → .confirmed ∈ log
  flushed : (writer = .written true true ∨ ∃ failing, writer = .completing true failing) →
    Flushed S maxFrameBytes log
  granted : claimed = true ↔ ∃ frame, .answered frame true ∈ log
  firm : claimed = true → barrier = .confirmed
  promoted : (∃ frame closed, .promoted frame closed ∈ log) →
    consumed = true ∧ barrier = .confirmed
  gateOk : GateOk challenge barrier claimed consumed closed log gate
  passed : ∀ frame, reader = .passed frame → barrier = .confirmed
  refused : (∃ frame, .answered frame false ∈ log) → closed = true ∨ reader = .closing
  attended : Attended reader log

/-! ## The moves -/

section Flags

variable {S : SerdeJson} {maxFrameBytes : ℕ} {challenge challenge' : Option String}
  {barrier barrier' : InitializedBarrierState} {claimed claimed' consumed consumed' closed : Bool}
  {gate gate' : GateHolder} {writer writer' : WriterStage} {reader reader' : ReaderStage}
  {log log' : List HandshakeEvent}

/-- A promotion keeps what it relies on while flags are raised, and while the barrier is not
confirmed any change is harmless. -/
lemma GateOk.mono (h : GateOk challenge barrier claimed consumed closed log gate)
    (hchallenge : ∀ token, challenge = some token → challenge' = some token)
    (hbarrier : barrier = .confirmed → barrier' = .confirmed)
    (hclaimed : claimed = true → claimed' = true)
    (hconsumed : barrier = .confirmed → consumed = true → consumed' = true)
    (hlog : ∀ frame closed, .promoted frame closed ∈ log' → .promoted frame closed ∈ log) :
    GateOk challenge' barrier' claimed' consumed' closed log' gate := by
  cases gate with
  | free => trivial
  | closing => exact h
  | promoting stage frame =>
    cases stage with
    | entered => trivial
    | opened => exact h
    | reopened => exact h
    | confirmed => exact ⟨h.1, hbarrier h.2⟩
    | claimed => exact ⟨h.1, hbarrier h.2.1, hclaimed h.2.2⟩
    | expecting expected =>
      obtain ⟨hopen, hb, hc, htoken⟩ := h
      exact ⟨hopen, hbarrier hb, hclaimed hc, hchallenge _ htoken⟩
    | safe =>
      obtain ⟨hopen, hb, hc, token, htoken, hframe⟩ := h
      exact ⟨hopen, hbarrier hb, hclaimed hc, token, hchallenge _ htoken, hframe⟩
    | consumed =>
      obtain ⟨hopen, hb, hc, ⟨token, htoken, hframe⟩, hcons, hnone⟩ := h
      exact ⟨hopen, hbarrier hb, hclaimed hc, ⟨token, hchallenge _ htoken, hframe⟩,
        hconsumed hb hcons, fun frame closed hmem => hnone frame closed (hlog frame closed hmem)⟩

lemma Attended.move (h : Attended reader log)
    (hreader : ∀ frame, Busy frame reader → IsReadyNotification frame → Busy frame reader') :
    Attended reader' log := by
  intro past frame rest heq hready
  rcases h past frame rest heq hready with hanswered | hbusy
  · exact Or.inl hanswered
  · exact Or.inr (hreader frame hbusy hready)

variable {event : HandshakeEvent} {frame : RpcFrame}

/-- The log grows: a frame that the reader leaves is answered, and a frame that it takes is the one
it is at work on. -/
lemma Attended.snoc (h : Attended reader log)
    (hreader : ∀ frame, Busy frame reader → IsReadyNotification frame →
      (∃ granted, event = .answered frame granted) ∨ Busy frame reader')
    (hevent : ∀ frame, event = .received frame → Busy frame reader') :
    Attended reader' (log ++ [event]) := by
  intro past frame rest heq hready
  rcases List.eq_nil_or_concat rest with rfl | ⟨rest', last, rfl⟩
  · obtain ⟨-, hlast⟩ := List.append_inj' heq rfl
    exact Or.inr (hevent frame (by simpa using hlast))
  · have heq' : log ++ [event] = (past ++ .received frame :: rest') ++ [last] := by simpa using heq
    obtain ⟨hlog, hlast⟩ := List.append_inj' heq' rfl
    obtain rfl : event = last := by simpa using hlast
    rcases h past frame rest' hlog hready with ⟨granted, hmem⟩ | hbusy
    · exact Or.inl ⟨granted, by simp [hmem]⟩
    · rcases hreader frame hbusy hready with ⟨granted, rfl⟩ | hbusy
      · exact Or.inl ⟨granted, by simp⟩
      · exact Or.inr hbusy

/-- The entries that raise no flag. -/
def Plain : HandshakeEvent → Prop
  | .flushed _ | .confirmed | .received _ | .answered _ false => True
  | _ => False

section

variable (h : Flags S maxFrameBytes challenge barrier claimed consumed closed gate writer reader log)

include h

lemma Flags.observe (hplain : Plain event) (hallowed : Allowed S maxFrameBytes log event)
    (hpassed : ∀ frame, reader' ≠ .passed frame ∨ reader = .passed frame)
    (hclosing : (reader = .closing ∨ ∃ frame, event = .answered frame false) → reader' = .closing)
    (hattended : Attended reader' (log ++ [event])) :
    Flags S maxFrameBytes challenge barrier claimed consumed closed gate writer reader'
      (log ++ [event]) := by
  have hinstalled : ∀ token, event ≠ .installed token := by
    rintro token rfl
    exact hplain
  have hgranted : ∀ frame, event ≠ .answered frame true := by
    rintro frame rfl
    exact hplain
  have hpromoted : ∀ frame closed, event ≠ .promoted frame closed := by
    rintro frame closed rfl
    exact hplain
  refine ⟨h.justified.snoc hallowed, ?_, ?_, ?_, ?_, h.firm, ?_, ?_, ?_, ?_, hattended⟩
  · intro token
    rw [h.installed token]
    simp [(hinstalled token).symm]
  · exact fun hb => List.mem_append_left _ (h.confirmed hb)
  · exact fun hwriter => (h.flushed hwriter).snoc _
  · rw [h.granted]
    simp [fun frame => (hgranted frame).symm]
  · rintro ⟨frame, wasClosed, hmem⟩
    refine h.promoted ⟨frame, wasClosed, ?_⟩
    simpa [(hpromoted frame wasClosed).symm] using hmem
  · refine h.gateOk.mono (fun _ => id) id id (fun _ => id) fun frame wasClosed hmem => ?_
    simpa [(hpromoted frame wasClosed).symm] using hmem
  · exact fun frame heq => h.passed frame ((hpassed frame).resolve_left (not_not.mpr heq))
  · rintro ⟨frame, hmem⟩
    rcases List.mem_append.mp hmem with hmem | hmem
    · exact (h.refused ⟨frame, hmem⟩).imp_right fun hreader => hclosing (Or.inl hreader)
    · exact Or.inr (hclosing (Or.inr ⟨frame, (List.mem_singleton.mp hmem).symm⟩))

lemma Flags.remark (hevent : (∃ bytes, event = .flushed bytes) ∨ event = .confirmed)
    (hallowed : Allowed S maxFrameBytes log event) :
    Flags S maxFrameBytes challenge barrier claimed consumed closed gate writer reader
      (log ++ [event]) := by
  obtain ⟨hplain, hother⟩ : Plain event ∧ ∀ frame,
      event ≠ .answered frame false ∧ event ≠ .received frame := by
    rcases hevent with ⟨bytes, rfl⟩ | rfl <;> simp [Plain]
  refine h.observe hplain hallowed (fun frame => (em _).symm) ?_ ?_
  · rintro (hclosing | ⟨frame, rfl⟩)
    · exact hclosing
    · exact absurd rfl (hother frame).1
  · refine h.attended.snoc (fun frame hbusy _ => Or.inr hbusy) fun frame heq => ?_
    exact absurd heq (hother frame).2

lemma Flags.writes (hold : barrier = .confirmed → barrier' = .confirmed)
    (hnew : barrier' = .confirmed → .confirmed ∈ log)
    (hflushed : (writer' = .written true true ∨ ∃ failing, writer' = .completing true failing) →
      Flushed S maxFrameBytes log) :
    Flags S maxFrameBytes challenge barrier' claimed consumed closed gate writer' reader log :=
  ⟨h.justified, h.installed, hnew, hflushed, h.granted, fun hc => hold (h.firm hc),
    fun hp => ⟨(h.promoted hp).1, hold (h.promoted hp).2⟩,
    h.gateOk.mono (fun _ => id) hold id (fun _ => id) (fun _ _ => id),
    fun frame heq => hold (h.passed frame heq), h.refused, h.attended⟩

lemma Flags.reads (hpassed : ∀ frame, reader' = .passed frame → barrier = .confirmed)
    (hclosing : reader = .closing → closed = true)
    (hbusy : ∀ frame, Busy frame reader → IsReadyNotification frame → Busy frame reader') :
    Flags S maxFrameBytes challenge barrier claimed consumed closed gate writer reader' log :=
  ⟨h.justified, h.installed, h.confirmed, h.flushed, h.granted, h.firm, h.promoted, h.gateOk,
    hpassed, fun hr => Or.inl ((h.refused hr).elim id hclosing), h.attended.move hbusy⟩

/-- `ready_token_consumed` is reset while the barrier is not confirmed. -/
lemma Flags.resets (hbarrier : barrier ≠ .confirmed) :
    Flags S maxFrameBytes challenge barrier claimed consumed' closed gate writer reader log :=
  ⟨h.justified, h.installed, h.confirmed, h.flushed, h.granted, h.firm,
    fun hp => absurd (h.promoted hp).2 hbarrier,
    h.gateOk.mono (fun _ => id) id id (fun hb => absurd hb hbarrier) (fun _ _ => id),
    h.passed, h.refused, h.attended⟩

lemma Flags.passes (hgate : GateOk challenge barrier claimed consumed closed log gate') :
    Flags S maxFrameBytes challenge barrier claimed consumed closed gate' writer reader log :=
  ⟨h.justified, h.installed, h.confirmed, h.flushed, h.granted, h.firm, h.promoted, hgate,
    h.passed, h.refused, h.attended⟩

end

lemma Flags.closes
    (h : Flags S maxFrameBytes challenge barrier claimed consumed closed .free writer reader log) :
    Flags S maxFrameBytes challenge barrier claimed consumed true .closing writer reader log :=
  ⟨h.justified, h.installed, h.confirmed, h.flushed, h.granted, h.firm, h.promoted, rfl,
    h.passed, fun _ => Or.inl rfl, h.attended⟩

lemma Flags.installs
    (h : Flags S maxFrameBytes none barrier claimed consumed closed gate writer reader log)
    (token : String) :
    Flags S maxFrameBytes (some token) barrier claimed consumed closed gate writer reader
      (log ++ [.installed token]) := by
  have hnone : ∀ token, .installed token ∉ log := by
    intro token hmem
    cases (h.installed token).mpr hmem
  refine ⟨h.justified.snoc hnone, ?_, ?_, ?_, ?_, h.firm, ?_, ?_, h.passed, ?_, ?_⟩
  · intro other
    simp [hnone other, eq_comm]
  · exact fun hb => List.mem_append_left _ (h.confirmed hb)
  · exact fun hwriter => (h.flushed hwriter).snoc _
  · rw [h.granted]
    simp
  · rintro ⟨frame, wasClosed, hmem⟩
    exact h.promoted ⟨frame, wasClosed, by simpa using hmem⟩
  · refine h.gateOk.mono ?_ id id (fun _ => id) fun frame wasClosed hmem => by simpa using hmem
    rintro token ⟨⟩
  · rintro ⟨frame, hmem⟩
    exact h.refused ⟨frame, by simpa using hmem⟩
  · exact h.attended.snoc (fun frame hbusy _ => Or.inr hbusy) (by rintro frame ⟨⟩)

lemma Flags.grants (h : Flags S maxFrameBytes challenge barrier false consumed closed gate writer
      (.passed frame) log) :
    Flags S maxFrameBytes challenge barrier true consumed closed gate writer .idle
      (log ++ [.answered frame true]) := by
  have hbarrier := h.passed frame rfl
  have hnone : ∀ frame, .answered frame true ∉ log := by
    intro frame hmem
    cases h.granted.mpr ⟨frame, hmem⟩
  refine ⟨h.justified.snoc ⟨h.confirmed hbarrier, hnone⟩, ?_, ?_, ?_, ?_, fun _ => hbarrier, ?_, ?_,
    ?_, ?_, ?_⟩
  · intro token
    rw [h.installed token]
    simp
  · exact fun hb => List.mem_append_left _ (h.confirmed hb)
  · exact fun hwriter => (h.flushed hwriter).snoc _
  · simp only [true_iff]
    exact ⟨frame, by simp⟩
  · rintro ⟨other, wasClosed, hmem⟩
    exact h.promoted ⟨other, wasClosed, by simpa using hmem⟩
  · refine h.gateOk.mono (fun _ => id) id (fun _ => rfl) (fun _ => id) fun other wasClosed hmem => ?_
    simpa using hmem
  · rintro other ⟨⟩
  · rintro ⟨other, hmem⟩
    exact (h.refused ⟨other, by simpa using hmem⟩).imp_right (by rintro ⟨⟩)
  · refine h.attended.snoc (fun other hbusy _ => Or.inl ⟨true, ?_⟩) (by rintro other ⟨⟩)
    obtain h₀ | h₀ | h₀ | h₀ := hbusy <;> cases h₀
    rfl

lemma Flags.consumes
    (h : Flags S maxFrameBytes challenge barrier claimed false closed (.promoting .safe frame)
      writer reader log) :
    Flags S maxFrameBytes challenge barrier claimed true closed (.promoting .consumed frame)
      writer reader log := by
  obtain ⟨hopen, hbarrier, hclaimed, htoken⟩ := h.gateOk
  have hnone : ∀ frame wasClosed, .promoted frame wasClosed ∉ log := by
    intro other wasClosed hmem
    cases (h.promoted ⟨other, wasClosed, hmem⟩).1
  exact ⟨h.justified, h.installed, h.confirmed, h.flushed, h.granted, h.firm,
    fun hp => ⟨rfl, (h.promoted hp).2⟩, ⟨hopen, hbarrier, hclaimed, htoken, rfl, hnone⟩, h.passed,
    h.refused, h.attended⟩

lemma Flags.promotes (h : Flags S maxFrameBytes challenge barrier claimed consumed closed
      (.promoting .consumed frame) writer reader log) :
    Flags S maxFrameBytes challenge barrier claimed consumed closed .free writer reader
      (log ++ [.promoted frame closed]) := by
  obtain ⟨hopen, hbarrier, hclaimed, ⟨token, htoken, hframe⟩, hconsumed, hnone⟩ := h.gateOk
  have hallowed : Allowed S maxFrameBytes log (.promoted frame closed) :=
    ⟨hopen, h.granted.mp hclaimed, ⟨token, (h.installed token).mp htoken, hframe⟩, hnone⟩
  refine ⟨h.justified.snoc hallowed, ?_, ?_, ?_, ?_, h.firm, fun _ => ⟨hconsumed, hbarrier⟩,
    trivial, h.passed, ?_, ?_⟩
  · intro token
    rw [h.installed token]
    simp
  · exact fun hb => List.mem_append_left _ (h.confirmed hb)
  · exact fun hwriter => (h.flushed hwriter).snoc _
  · rw [h.granted]
    simp
  · rintro ⟨other, hmem⟩
    exact h.refused ⟨other, by simpa using hmem⟩
  · exact h.attended.snoc (fun frame hbusy _ => Or.inr hbusy) (by rintro frame ⟨⟩)

end Flags

end JaDesktop.Host.Handshake
