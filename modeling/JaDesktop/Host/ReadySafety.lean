import JaDesktop.Host.ReadyFlags

/-!
# Safety of the ready handshake

What holds of every run of the handshake, whatever the interleaving of its threads: the lifecycle is
promoted at most once, in an open session and by a frame that echoes the challenge, after the reader
claimed a ready frame, and that after the line with the challenge was flushed; and any other ready
frame is refused and closes the session.
-/

namespace JaDesktop.Host.Handshake

/-! ## The invariant -/

/-- The invariant. -/
structure Valid (S : SerdeJson) (maxFrameBytes : ℕ) (s : Handshake) : Prop where
  sends : Sends S maxFrameBytes s.install s.challenge s.initializedSent s.calls s.queue s.writer
    s.barrier
  flags : Flags S maxFrameBytes s.challenge s.barrier s.claimed s.consumed s.closed s.gate s.writer
    s.reader s.log

/-! ## The steps -/

section Steps

variable {S : SerdeJson} {maxFrameBytes : ℕ} {s s' : Handshake}

lemma Valid.installNext (h : s.Valid S maxFrameBytes) (hstep : s.installNext = some s') :
    s'.Valid S maxFrameBytes := by
  obtain ⟨install, forbidden, challenge, initializedSent, barrier, claimed, consumed, closed, gate,
    calls, queue, writer, reader, log⟩ := s
  obtain ⟨hsends, hflags⟩ := h
  simp only at hsends hflags
  have hbarrier : install ≠ .done → barrier = .notSent := hsends.notSent
  unfold Handshake.installNext at hstep
  cases install with
  | absent => cases hstep
  | done => cases hstep
  | forbidden token =>
    obtain rfl := hbarrier (by simp)
    obtain rfl := hsends.unset (Or.inr ⟨token, rfl⟩)
    cases hstep
    exact ⟨hsends.installs (by simp) (by simp), hflags.installs token⟩
  | challenged =>
    obtain rfl := hbarrier (by simp)
    cases hstep
    exact ⟨hsends.installs (by simp) (by simp), hflags⟩
  | unsent =>
    obtain rfl := hbarrier (by simp)
    simp only at hstep
    split_ifs at hstep
    cases hstep
    exact ⟨hsends.installs (by simp) (by simp), hflags⟩
  | reset =>
    obtain rfl := hbarrier (by simp)
    cases hstep
    -- the claim has not been made: it is made when the barrier is confirmed
    have hclaimed : claimed = false := by
      rw [Bool.eq_false_iff]
      intro hclaimed
      cases hflags.firm hclaimed
    subst hclaimed
    exact ⟨hsends.installs (by simp) (by simp), hflags⟩
  | unclaimed =>
    obtain rfl := hbarrier (by simp)
    cases hstep
    exact ⟨hsends.installs (by simp) (by simp), hflags.resets (by simp)⟩

lemma Valid.sendNext (hS : S.KeepsShape) (h : s.Valid S maxFrameBytes) {call : ℕ} {step : SendStep}
    (hsequenced : s.Sequenced (.send call step))
    (hstep : s.sendNext S maxFrameBytes call step (s.calls call) = some s') :
    s'.Valid S maxFrameBytes := by
  obtain ⟨hsends, hflags⟩ := h
  have hheld := hsends.held call
  generalize hcall : s.calls call = current at hstep hheld
  have hactive : active current = true → active (s.calls call) = true := by
    rw [hcall]
    exact id
  unfold Handshake.sendNext at hstep
  split at hstep
  · -- the tests on the payload
    rename_i message
    split at hstep
    · rename_i params hmessage
      split_ifs at hstep with hparams
      · cases hstep
        obtain ⟨token, htoken, rfl⟩ := params_of_validateInitializedParams hparams
        refine ⟨hsends.goto ⟨token, htoken, rfl⟩ Or.inl (by rintro ⟨⟩) fun _ => ?_, hflags⟩
        -- there is a challenge, and the installation is not under way
        have hidle : s.install.running = false := hsequenced (by simp [hmessage])
        cases hinstall : s.install with
        | done => rfl
        | absent =>
          have hnone := hsends.unset (Or.inl hinstall)
          rw [htoken] at hnone
          cases hnone
        | _ => simp [hinstall, InstallStage.running] at hidle
      · cases hstep
        exact ⟨hsends.leave trivial rfl, hflags⟩
    · rename_i hmessage
      split_ifs at hstep with hrunning hforbidden
      · cases hstep
        exact ⟨hsends.leave trivial rfl, hflags⟩
      · cases hstep
        refine ⟨hsends.leave ?_ rfl, hflags⟩
        exact fun frame hframe => method_ne_of_cleared hmessage hforbidden hframe
  · -- the exchange of `initialized_sent`
    split_ifs at hstep with hsent
    · cases hstep
      exact ⟨hsends.leave trivial rfl, hflags⟩
    · cases hstep
      refine ⟨hsends.goto hheld (fun _ => Or.inl rfl) ?_ fun _ => ?_, hflags⟩
      · exact fun _ => ⟨rfl, Or.inl (by simpa using hsent)⟩
      · exact hsends.done (by rw [hcall]; rfl)
  · -- `ready_token_consumed` is reset before any line is delivered
    cases hstep
    have hnot := hsends.not_delivered (hactive rfl)
    refine ⟨hsends.proceed (hactive rfl) hheld, hflags.resets fun hbarrier => hnot (Or.inl ?_)⟩
    simp [hbarrier]
  · split at hstep
    · cases hstep
      exact ⟨hsends.reset (hactive rfl), hflags⟩
    · rename_i params bytes hbytes
      cases hstep
      obtain ⟨token, htoken, rfl⟩ := hheld
      exact ⟨hsends.proceed (hactive rfl) ⟨token, htoken, hbytes⟩, hflags⟩
  · split at hstep
    · cases hstep
      exact ⟨hsends.leave trivial rfl, hflags⟩
    · rename_i message frame hframe
      split at hstep
      · split_ifs at hstep with hmethod
        · exact absurd hmethod (hheld frame hframe)
        · cases hstep
          exact ⟨hsends.leave trivial rfl, hflags⟩
      · rename_i bytes hbytes
        cases hstep
        exact ⟨hsends.leave (isInitialized_encode hS hbytes (hheld frame hframe)) rfl, hflags⟩
  · cases hstep
    exact ⟨hsends.push hcall, hflags⟩
  · rename_i initialized _ _
    split_ifs at hstep
    cases hstep
    cases initialized with
    | false => exact ⟨hsends.leave trivial rfl, hflags⟩
    | true => exact ⟨hsends.proceed (hactive rfl) trivial, hflags⟩
  · rename_i initialized _ _
    cases hstep
    cases initialized with
    | false => exact ⟨hsends.leave trivial rfl, hflags⟩
    | true => exact ⟨hsends.proceed (hactive rfl) trivial, hflags⟩
  · rename_i initialized _ _
    cases hstep
    cases initialized with
    | false => exact ⟨hsends.leave trivial rfl, hflags⟩
    | true => exact ⟨hsends.proceed (hactive rfl) trivial, hflags⟩
  · rename_i initialized _
    split_ifs at hstep with _ hinitialized
    · cases hstep
      subst hinitialized
      exact ⟨hsends.reset (hactive rfl), hflags⟩
    · cases hstep
      exact ⟨hsends.leave trivial rfl, hflags⟩
  · cases hstep

lemma mem_lines_nextFrame {queue queue' : WriterQueue} {bytes line : List UInt8}
    (hnext : queue.nextFrame = some (bytes, queue'))
    (hline : line ∈ lines queue' (.holding bytes)) : line ∈ lines queue .idle := by
  obtain ⟨control, data, burst⟩ := queue
  unfold WriterQueue.nextFrame at hnext
  simp only at hnext
  split at hnext
  · cases hnext
  · cases hnext
    simp only [lines, List.mem_append, List.mem_cons] at *
    tauto
  · cases hnext
    simp only [lines, List.mem_append, List.mem_cons] at *
    tauto
  · split_ifs at hnext
    · cases hnext
      simp only [lines, List.mem_append, List.mem_cons] at *
      tauto
    · cases hnext
      simp only [lines, List.mem_append, List.mem_cons] at *
      tauto

section

variable (h : s.Valid S maxFrameBytes)
include h

/-- Where the writer holds the guard, a line was delivered, and the barrier is not confirmed. -/
lemma Valid.delivered (hguarded : guarded s.writer = true) :
    Delivered S maxFrameBytes s.queue s.writer s.barrier ∧ s.barrier ≠ .confirmed := by
  have hsending := h.sends.sending.mpr hguarded
  exact ⟨Or.inl (by simp [hsending]), by simp [hsending]⟩

lemma Valid.writerFails (hguarded : guarded s.writer = true) :
    Valid S maxFrameBytes { s with barrier := .failed, writer := .failed } := by
  obtain ⟨hdelivered, hbarrier⟩ := h.delivered hguarded
  refine ⟨h.sends.turn hdelivered ?_ (by simp [guarded]) (by simp), ?_⟩
  · intro line hline
    exact List.mem_append_left _ (by simpa [lines] using hline)
  · exact h.flags.writes (fun hb => absurd hb hbarrier) (by simp) (by simp)

lemma Valid.writerMoves {stage : WriterStage}
    (hguarded : guarded stage = guarded s.writer) (hlines : ∀ bytes, stage ≠ .holding bytes)
    (hwriting : ∀ bytes, stage ≠ .sending true bytes)
    (hflushed : (stage = .written true true ∨ ∃ failing, stage = .completing true failing) →
      s.writer = .written true true) :
    Valid S maxFrameBytes { s with writer := stage } := by
  refine ⟨h.sends.rewrite ?_ hguarded hwriting, ?_⟩
  · intro line hline
    refine List.mem_append_left _ ?_
    cases stage with
    | holding bytes => exact absurd rfl (hlines bytes)
    | _ => simpa [lines] using hline
  · exact h.flags.writes id h.flags.confirmed fun hstage => h.flags.flushed (Or.inl (hflushed hstage))

lemma Valid.writerNext {step : WriterStep}
    (hstep : s.writerNext S maxFrameBytes step s.writer = some s') : s'.Valid S maxFrameBytes := by
  generalize hwriter : s.writer = current at hstep
  unfold Handshake.writerNext at hstep
  split at hstep
  · obtain ⟨⟨bytes, queue⟩, hnext, rfl⟩ := Option.map_eq_some_iff.mp hstep
    refine ⟨h.sends.rewrite ?_ (by rw [hwriter]; rfl) (by simp), ?_⟩
    · intro line hline
      rw [hwriter]
      exact mem_lines_nextFrame hnext hline
    · exact h.flags.writes id h.flags.confirmed (by simp)
  · -- `begin_send`
    rename_i bytes
    have hmem : bytes ∈ lines s.queue s.writer := by simp [lines, hwriter]
    split_ifs at hstep with hinitialized hheld hbarrier
    · cases hstep
      exact h.writerMoves (by rw [hwriter]; rfl) (by simp) (by simp) (by simp)
    · cases hstep
      refine ⟨h.sends.turn (Or.inr ⟨bytes, hmem, hinitialized⟩) ?_ (by simp [guarded]) ?_, ?_⟩
      · intro line hline
        exact List.mem_append_left _ (by simpa [lines] using hline)
      · rintro _ ⟨⟩
        exact h.sends.queued bytes hmem hinitialized
      · refine h.flags.writes (fun hb => ?_) (by simp) (by simp)
        rw [not_not.mp hbarrier] at hb
        cases hb
    · cases hstep
      exact h.writerMoves (by rw [hwriter]; rfl) (by simp) (by simp) (by simp)
  · rename_i hold _
    split_ifs at hstep with hguarded
    · cases hstep
      exact h.writerFails (by rw [hwriter, hguarded]; rfl)
    · cases hstep
      exact h.writerMoves (by rw [hwriter]; simp [guarded, hguarded]) (by simp) (by simp) (by simp)
  · -- the line is written, and flushed or not
    rename_i flushed hold bytes
    cases hstep
    refine ⟨h.sends.rewrite ?_ ?_ (by simp), ?_⟩
    · intro line hline
      exact List.mem_append_left _ (by simpa [lines] using hline)
    · rw [hwriter]
      cases hold <;> rfl
    · cases flushed with
      | false => exact h.flags.writes id h.flags.confirmed (by simp)
      | true =>
        have hlog := h.flags.remark (Or.inl ⟨bytes, rfl⟩) trivial
        refine hlog.writes id hlog.confirmed fun hstage => ?_
        obtain rfl : hold = true := by simpa using hstage
        obtain ⟨token, htoken, hcarries⟩ := h.sends.writing bytes hwriter
        exact ⟨token, bytes, (hlog.installed token).mp htoken, by simp, hcarries⟩
  · rename_i hold _
    split_ifs at hstep with hguarded
    · cases hstep
      exact h.writerFails (by rw [hwriter, hguarded]; rfl)
    · cases hstep
      exact h.writerMoves (by rw [hwriter]; simp [guarded, hguarded]) (by simp) (by simp) (by simp)
  · rename_i fired hold flushed
    split_ifs at hstep with hguarded
    · cases hstep
      refine h.writerMoves (by rw [hwriter, hguarded]; rfl) (by simp) (by simp) ?_
      simp only [reduceCtorEq, false_or, WriterStage.completing.injEq, Bool.and_eq_true]
      rintro ⟨failing, ⟨⟨rfl, -⟩, -⟩, -⟩
      rw [hwriter, hguarded]
    · cases hstep
      exact h.writerMoves (by rw [hwriter]; simp [guarded, hguarded]) (by simp) (by simp) (by simp)
    · cases hstep
      exact h.writerMoves (by rw [hwriter]; simp [guarded, hguarded]) (by simp) (by simp) (by simp)
  · -- `complete`
    rename_i confirmed failing
    cases hstep
    obtain ⟨hdelivered, hbarrier⟩ := h.delivered (by rw [hwriter]; rfl)
    refine ⟨h.sends.turn hdelivered ?_ ?_ ?_, ?_⟩
    · intro line hline
      refine List.mem_append_left _ ?_
      cases failing <;> simpa [lines] using hline
    · cases confirmed <;> cases failing <;> simp [guarded]
    · intro bytes
      cases failing <;> simp
    · cases confirmed with
      | false =>
        refine h.flags.writes (fun hb => absurd hb hbarrier) (by simp) ?_
        cases failing <;> simp
      | true =>
        have hflushed := h.flags.flushed (Or.inr ⟨failing, hwriter⟩)
        have hlog := h.flags.remark (Or.inr rfl) hflushed
        refine hlog.writes (fun hb => absurd hb hbarrier) (by simp) ?_
        cases failing <;> simp
  · cases hstep

end

variable {frame : RpcFrame}

lemma Busy.unique {other : RpcFrame} {reader : ReaderStage} (h : Busy frame reader)
    (h' : Busy other reader) : frame = other := by
  rcases h with rfl | rfl | rfl | rfl <;> simpa [Busy, eq_comm] using h'

section

variable (h : s.Valid S maxFrameBytes)
include h

lemma Valid.refuse (hbusy : Busy frame s.reader) {ready : Bool}
    (hready : IsReadyNotification frame → ready = true) :
    (s.refuse frame ready).Valid S maxFrameBytes := by
  refine ⟨h.sends, ?_⟩
  cases ready with
  | false =>
    refine h.flags.reads (by rintro _ ⟨⟩) ?_ ?_
    · intro hclosing
      rw [hclosing] at hbusy
      simp [Busy] at hbusy
    · intro other hother hreadyOther
      obtain rfl := hbusy.unique hother
      cases hready hreadyOther
  | true =>
    refine h.flags.observe trivial trivial (fun _ => Or.inl (by rintro ⟨⟩)) (fun _ => rfl) ?_
    refine h.flags.attended.snoc (fun other hother _ => Or.inl ⟨false, ?_⟩) (by simp)
    rw [hbusy.unique hother]

lemma Valid.goesOn {stage : ReaderStage} (hbusy : Busy frame s.reader)
    (hstage : IsReadyNotification frame → Busy frame stage)
    (hpassed : ∀ frame, stage = .passed frame → s.barrier = .confirmed) :
    Valid S maxFrameBytes { s with reader := stage } := by
  refine ⟨h.sends, h.flags.reads hpassed ?_ ?_⟩
  · intro hclosing
    rw [hclosing] at hbusy
    simp [Busy] at hbusy
  · intro other hother hready
    obtain rfl := hbusy.unique hother
    exact hstage hready

lemma Valid.audit {rejected : Bool}
    (hreader : s.reader = .dispatching frame) (hstep : s.audit frame rejected = some s') :
    s'.Valid S maxFrameBytes := by
  have hbusy : Busy frame s.reader := Or.inl hreader
  have hkind : ∀ kind, frame.validate = kind → kind ≠ .ok .notification →
      ¬ IsReadyNotification frame := by
    rintro kind rfl hne ⟨hvalid, -⟩
    exact hne hvalid
  unfold Handshake.audit at hstep
  split at hstep
  · rename_i hvalid
    cases hstep
    exact h.refuse hbusy fun hready => absurd hready (hkind _ hvalid (by simp))
  · rename_i hvalid
    cases hstep
    exact h.refuse hbusy fun hready => absurd hready (hkind _ hvalid (by simp))
  · rename_i hvalid
    split_ifs at hstep
    · cases hstep
      exact h.refuse hbusy fun hready => absurd hready (hkind _ hvalid (by simp))
    · cases hstep
      exact h.goesOn hbusy (fun hready => absurd hready (hkind _ hvalid (by simp))) (by simp)
  · rename_i hvalid
    split_ifs at hstep
    · cases hstep
      exact h.refuse hbusy fun hready => absurd hready (hkind _ hvalid (by simp))
    · cases hstep
      exact h.goesOn hbusy (fun hready => absurd hready (hkind _ hvalid (by simp))) (by simp)
  · split_ifs at hstep with hrunning hunsafe hready
    · cases hstep
      exact h.refuse hbusy And.right
    · cases hstep
      exact h.goesOn hbusy (fun _ => Or.inr (Or.inl rfl)) (by simp)
    · cases hstep
      exact h.goesOn hbusy (fun hnotification => absurd hnotification.2 hready) (by simp)

lemma Valid.readerNext {step : ReaderStep}
    (hstep : s.readerNext step s.reader = some s') : s'.Valid S maxFrameBytes := by
  generalize hreader : s.reader = current at hstep
  unfold Handshake.readerNext at hstep
  split at hstep
  · rename_i frame
    cases hstep
    refine ⟨h.sends, h.flags.observe trivial trivial (by simp) (by simp [hreader]) ?_⟩
    refine h.flags.attended.snoc ?_ ?_
    · intro other hother
      rw [hreader] at hother
      simp [Busy] at hother
    · rintro _ ⟨⟩
      exact Or.inl rfl
  · exact h.audit hreader hstep
  · -- `claim_ready`
    rename_i frame
    have hbusy : Busy frame s.reader := Or.inr (Or.inl hreader)
    split_ifs at hstep
    · cases hstep
      exact h.refuse hbusy fun _ => rfl
    · cases hstep
      exact h.goesOn hbusy (fun _ => Or.inr (Or.inr (Or.inl rfl))) (by simp)
  · rename_i frame
    have hbusy : Busy frame s.reader := Or.inr (Or.inr (Or.inl hreader))
    split_ifs at hstep with hbarrier
    · cases hstep
      exact h.refuse hbusy fun _ => rfl
    · cases hstep
      exact h.goesOn hbusy (fun _ => Or.inr (Or.inr (Or.inr rfl))) fun _ _ => not_not.mp hbarrier
  · rename_i frame
    have hbusy : Busy frame s.reader := Or.inr (Or.inr (Or.inr hreader))
    split_ifs at hstep with hclaimed
    · cases hstep
      exact h.refuse hbusy fun _ => rfl
    · cases hstep
      have hflags := h.flags
      rw [hreader, Bool.eq_false_iff.mpr hclaimed] at hflags
      exact ⟨h.sends, hflags.grants⟩
  · split at hstep
    · rename_i hgate
      have hflags := h.flags
      rw [hgate] at hflags
      have hidle : ∀ frame, Busy frame s.reader → IsReadyNotification frame → Busy frame .idle := by
        intro frame hbusy
        rw [hreader] at hbusy
        simp [Busy] at hbusy
      split_ifs at hstep with hclosed
      · cases hstep
        exact ⟨h.sends, h.flags.reads (by simp) (fun _ => hclosed) hidle⟩
      · cases hstep
        exact ⟨h.sends, hflags.closes.reads (by simp) (fun _ => rfl) hidle⟩
    · cases hstep
  · cases hstep

lemma Valid.promotionNext (hstep : s.promotionNext = some s') :
    s'.Valid S maxFrameBytes := by
  have hgate := h.flags.gateOk
  have hleave : Valid S maxFrameBytes { s with gate := .free } :=
    ⟨h.sends, h.flags.passes trivial⟩
  have hpass : ∀ {gate}, GateOk s.challenge s.barrier s.claimed s.consumed s.closed s.log gate →
      Valid S maxFrameBytes { s with gate := gate } :=
    fun hok => ⟨h.sends, h.flags.passes hok⟩
  unfold Handshake.promotionNext at hstep
  simp only at hstep
  split at hstep
  · cases hstep
  · cases hstep
  · split_ifs at hstep with hclosed
    · cases hstep
      exact hleave
    · cases hstep
      exact hpass (by simpa [GateOk] using hclosed)
  · rename_i heq
    rw [heq] at hgate
    split_ifs at hstep
    · cases hstep
      exact hleave
    · cases hstep
      exact hpass hgate
  · rename_i heq
    rw [heq] at hgate
    split_ifs at hstep with hheld hbarrier
    · cases hstep
      exact hpass ⟨hgate, hbarrier⟩
    · cases hstep
      exact hleave
  · rename_i heq
    rw [heq] at hgate
    split_ifs at hstep with hclaimed
    · cases hstep
      exact hpass ⟨hgate.1, hgate.2, hclaimed⟩
    · cases hstep
      exact hleave
  · rename_i heq
    rw [heq] at hgate
    split at hstep
    · cases hstep
      exact hleave
    · rename_i expected hchallenge
      cases hstep
      exact hpass ⟨hgate.1, hgate.2.1, hgate.2.2, hchallenge⟩
  · rename_i expected frame heq
    rw [heq] at hgate
    obtain ⟨hopen, hbarrier, hclaimed, hchallenge⟩ := hgate
    split_ifs at hstep with hrunning htoken
    · cases hstep
      exact hleave
    · cases hstep
      refine hpass ⟨hopen, hbarrier, hclaimed, expected, hchallenge, ?_⟩
      by_contra hne
      exact htoken (by simp [hne])
  · rename_i frame heq
    split_ifs at hstep with hconsumed
    · cases hstep
      exact hleave
    · cases hstep
      have hflags := h.flags
      rw [heq, Bool.eq_false_iff.mpr hconsumed] at hflags
      exact ⟨h.sends, hflags.consumes⟩
  · rename_i frame heq
    cases hstep
    have hflags := h.flags
    rw [heq] at hflags
    exact ⟨h.sends, hflags.promotes⟩

end

/-- **Every step preserves the invariant.** -/
theorem Valid.step (hS : S.KeepsShape) (h : s.Valid S maxFrameBytes) {action : HandshakeAction}
    (hstep : s.Step S maxFrameBytes action s') : s'.Valid S maxFrameBytes := by
  obtain ⟨hsequenced, hstep⟩ := hstep
  unfold after at hstep
  cases action with
  | install token =>
    simp only at hstep
    split at hstep
    · rename_i hinstall
      split_ifs at hstep
      · cases hstep
        have hbarrier := h.sends.notSent (by simp [hinstall])
        have hsends := h.sends
        have hflags := h.flags
        rw [hbarrier] at hsends
        have hinstalls : Sends S maxFrameBytes (.forbidden token) s.challenge s.initializedSent
            s.calls s.queue s.writer .notSent :=
          hsends.installs (by simp [hinstall]) fun _ => h.sends.unset (Or.inl hinstall)
        rw [← hbarrier] at hinstalls
        exact ⟨hinstalls, hflags⟩
      · cases hstep
        exact h
    · cases hstep
  | installNext => exact h.installNext hstep
  | send call step => exact h.sendNext hS hsequenced hstep
  | writer step => exact h.writerNext hstep
  | reader step => exact h.readerNext hstep
  | promotion frame =>
    simp only at hstep
    split at hstep
    · cases hstep
      exact ⟨h.sends, h.flags.passes trivial⟩
    · cases hstep
  | promotionNext => exact h.promotionNext hstep
  | failClosed =>
    simp only at hstep
    split at hstep
    · rename_i hgate
      split_ifs at hstep
      · cases hstep
        exact h
      · cases hstep
        have hflags := h.flags
        rw [hgate] at hflags
        exact ⟨h.sends, hflags.closes⟩
    · cases hstep
  | release =>
    simp only at hstep
    split at hstep
    · cases hstep
      exact ⟨h.sends, h.flags.passes trivial⟩
    · cases hstep

lemma valid_initial : initial.Valid S maxFrameBytes := by
  have hnot : ¬ Delivered S maxFrameBytes ⟨[], [], 0⟩ .idle .notSent := by simp [Delivered, lines]
  refine ⟨⟨fun _ => trivial, by simp [initial, lines], by simp [initial, guarded], by simp [initial],
    by simp [initial, active], by simp [initial, active], fun hd => absurd hd hnot,
    fun _ => rfl, fun _ => ⟨hnot, fun _ => rfl⟩⟩, ?_⟩
  refine ⟨.nil, by simp [initial], by simp [initial], by simp [initial], by simp [initial],
    by simp [initial], by simp [initial], trivial, by simp [initial], by simp [initial], ?_⟩
  intro past frame rest heq
  simp [initial] at heq

/-- **The invariant holds in every reachable state.** -/
theorem valid_of_reachable (hS : S.KeepsShape) (hs : s.Reachable S maxFrameBytes) :
    s.Valid S maxFrameBytes := by
  obtain ⟨actions, hrun⟩ := hs
  exact hrun.stateInvariant valid_initial fun h hstep => h.step hS hstep

end Steps

/-! ## A refusal closes the session -/

section Closing

variable {S : SerdeJson} {maxFrameBytes : ℕ} {s s' : Handshake}

/-- The tests that a promotion has before it. -/
def testsLeft : PromotionStage → ℕ
  | .entered => 7
  | .opened => 6
  | .reopened => 5
  | .confirmed => 4
  | .claimed => 3
  | .expecting _ => 2
  | .safe => 1
  | .consumed => 0

variable {stage : PromotionStage} {frame : RpcFrame}

/-- A step of a promotion leaves the gate, or brings the promotion one test further. -/
lemma gate_of_promotionNext (hgate : s.gate = .promoting stage frame)
    (hstep : s.promotionNext = some s') :
    s'.reader = s.reader ∧ (s'.gate = .free ∨
      ∃ next, s'.gate = .promoting next frame ∧ testsLeft next < testsLeft stage) := by
  unfold Handshake.promotionNext at hstep
  simp only at hstep
  split at hstep
  · cases hstep
  · cases hstep
  all_goals
    rename_i heq
    rw [hgate] at heq
    cases heq
  · split_ifs at hstep <;> cases hstep <;> simp [testsLeft]
  · split_ifs at hstep <;> cases hstep <;> simp [testsLeft]
  · split_ifs at hstep <;> cases hstep <;> simp [testsLeft]
  · split_ifs at hstep <;> cases hstep <;> simp [testsLeft]
  · split at hstep <;> cases hstep <;> simp [testsLeft]
  · split_ifs at hstep <;> cases hstep <;> simp [testsLeft]
  · split_ifs at hstep <;> cases hstep <;> simp [testsLeft]
  · cases hstep
    simp

lemma exists_promotionNext (hgate : s.gate = .promoting stage frame) (hheld : s.barrierHeld = false)
    (hidle : ∀ expected, stage = .expecting expected → s.install.running = false) :
    ∃ s', s.promotionNext = some s' := by
  cases stage with
  | expecting expected => simp [Handshake.promotionNext, hgate, hidle expected rfl]
  | _ => simp [Handshake.promotionNext, hgate, hheld]

lemma exists_unguarded (S : SerdeJson) (maxFrameBytes : ℕ) (hreader : s.reader = .closing)
    (hheld : s.barrierHeld = true) :
    ∃ step s', s.writerNext S maxFrameBytes step s.writer = some s' ∧ s'.reader = .closing ∧
      s'.gate = s.gate ∧ s'.barrierHeld = false := by
  cases hwriter : s.writer with
  | sending guarded bytes =>
    obtain rfl : guarded = true := by
      cases guarded <;> simp_all [barrierHeld]
    exact ⟨.spawnFails, _, rfl, hreader, rfl, by simp [barrierHeld, hreader]⟩
  | written guarded flushed =>
    obtain rfl : guarded = true := by
      cases guarded <;> simp_all [barrierHeld]
    exact ⟨.join none, _, rfl, hreader, rfl, by simp [barrierHeld, hreader]⟩
  | completing confirmed failing =>
    refine ⟨.complete, _, rfl, hreader, rfl, ?_⟩
    cases failing <;> simp [barrierHeld, hreader]
  | _ => simp [barrierHeld, hwriter, hreader] at hheld

/-- **A promotion ends**: while the reader waits for the gate, the gate can become free. -/
theorem exists_free (hS : S.KeepsShape) (h : s.Valid S maxFrameBytes)
    (hreader : s.reader = .closing) (hgate : s.gate = .promoting stage frame) :
    ∃ actions s', Run (Step S maxFrameBytes) s actions s' ∧ s'.gate = .free ∧
      s'.reader = .closing := by
  induction hleft : testsLeft stage using Nat.strong_induction_on generalizing s stage with
  | _ left ih =>
    subst hleft
    -- the writer first gives up the barrier, if it holds it
    obtain ⟨actions, t, hrun, ht, hreader', hgate', hheld⟩ : ∃ actions t,
        Run (Step S maxFrameBytes) s actions t ∧ t.Valid S maxFrameBytes ∧ t.reader = .closing ∧
        t.gate = .promoting stage frame ∧ t.barrierHeld = false := by
      by_cases hheld : s.barrierHeld
      · obtain ⟨step, t, hstep, hr, hg, hfree⟩ :=
          exists_unguarded S maxFrameBytes hreader hheld
        have hstep' : s.Step S maxFrameBytes (.writer step) t := ⟨trivial, hstep⟩
        exact ⟨_, t, .snoc .nil hstep', h.step hS hstep', hr, hg.trans hgate, hfree⟩
      · exact ⟨[], s, .nil, h, hreader, hgate, by simpa using hheld⟩
    -- when the frame is compared with the challenge, the installation is over
    have hidle : ∀ expected, stage = .expecting expected → t.install.running = false := by
      rintro expected rfl
      have hok := ht.flags.gateOk
      rw [hgate'] at hok
      have hdone : t.install = .done := by
        by_contra hne
        cases (ht.sends.notSent hne).symm.trans hok.2.1
      rw [hdone]
      rfl
    obtain ⟨u, hnext⟩ := exists_promotionNext hgate' hheld hidle
    have hstep : t.Step S maxFrameBytes .promotionNext u := ⟨trivial, hnext⟩
    obtain ⟨hr, hfree | ⟨next, hpromoting, hlt⟩⟩ := gate_of_promotionNext hgate' hnext
    · exact ⟨_, u, hrun.snoc hstep, hfree, hr.trans hreader'⟩
    · obtain ⟨actions', v, hrun', hfree, hclosing⟩ :=
        ih _ hlt (ht.step hS hstep) (hr.trans hreader') hpromoting rfl
      exact ⟨_, v, (hrun.snoc hstep).append hrun', hfree, hclosing⟩

/-- A reader that is about to close the session can do so. -/
theorem exists_closed (hS : S.KeepsShape) (h : s.Valid S maxFrameBytes)
    (hreader : s.reader = .closing) :
    ∃ actions s', Run (Step S maxFrameBytes) s actions s' ∧ s'.closed = true := by
  -- with the gate free, the reader takes it and sets the flag
  have hclose : ∀ t : Handshake, t.gate = .free → t.reader = .closing →
      ∃ t', t.Step S maxFrameBytes (.reader .close) t' ∧ t'.closed = true := by
    intro t hgate hclosing
    by_cases hclosed : t.closed
    · refine ⟨{ t with reader := .idle }, ⟨trivial, ?_⟩, hclosed⟩
      simp [after, hclosing, Handshake.readerNext, hgate, hclosed]
    · refine ⟨{ t with reader := .idle, closed := true, gate := .closing }, ⟨trivial, ?_⟩, rfl⟩
      simp [after, hclosing, Handshake.readerNext, hgate, hclosed]
  cases hgate : s.gate with
  | free =>
    obtain ⟨t, hstep, hclosed⟩ := hclose s hgate hreader
    exact ⟨_, t, .snoc .nil hstep, hclosed⟩
  | closing =>
    have hok := h.flags.gateOk
    rw [hgate] at hok
    exact ⟨[], s, .nil, hok⟩
  | promoting stage frame =>
    obtain ⟨actions, t, hrun, hfree, hclosing⟩ := exists_free hS h hreader hgate
    obtain ⟨t', hstep, hclosed⟩ := hclose t hfree hclosing
    exact ⟨_, t', hrun.snoc hstep, hclosed⟩

end Closing

/-! ## Safety -/

/-- The promotions in a log. -/
def promotions (log : List HandshakeEvent) : List HandshakeEvent :=
  log.filter fun
    | .promoted _ _ => true
    | _ => false

/-- What holds of every session. -/
structure ReadySafe (S : SerdeJson) (maxFrameBytes : ℕ) (s : Handshake) : Prop where
  /-- The promotion ran in an open session, for a frame that echoes the challenge, after the
  reader claimed a ready frame, and that was after the line with the challenge was flushed. -/
  promoted : ∀ past frame closed rest, s.log = past ++ .promoted frame closed :: rest →
    closed = false ∧ ∃ token before ready between,
      past = before ++ .answered ready true :: between ∧
      .installed token ∈ before ∧ frame.readyToken = some token ∧
      ∃ bytes, .flushed bytes ∈ before ∧ Carries S maxFrameBytes token bytes
  /-- There is at most one challenge, and at most one promotion. -/
  installed_once : ∀ token token', .installed token ∈ s.log → .installed token' ∈ s.log →
    token = token'
  promoted_once : (promotions s.log).length ≤ 1
  /-- Every ready frame that the reader took is answered, once the reader is done with it. -/
  answered : ∀ past frame rest, s.log = past ++ .received frame :: rest →
    IsReadyNotification frame → (∃ granted, .answered frame granted ∈ rest) ∨ Busy frame s.reader
  /-- A second ready frame is refused, and so is one before the line is confirmed. -/
  refused : ∀ past frame granted rest, s.log = past ++ .answered frame granted :: rest →
    ((∃ other, .answered other true ∈ past) ∨ .confirmed ∉ past) → granted = false
  /-- A refusal closes the session: until it is closed the reader does nothing else, and it can
  always be closed. -/
  closes : ∀ frame, .answered frame false ∈ s.log → s.closed = true ∨
    s.reader = .closing ∧ ∃ actions s', Run (Step S maxFrameBytes) s actions s' ∧ s'.closed = true

section Safety

variable {S : SerdeJson} {maxFrameBytes : ℕ} {log : List HandshakeEvent}

lemma installed_unique (h : Justified (Allowed S maxFrameBytes) log) {token token' : String}
    (htoken : .installed token ∈ log) (htoken' : .installed token' ∈ log) : token = token' := by
  let kind : HandshakeEvent → Bool
    | .installed _ => true
    | _ => false
  have hkind : ∀ past event, Allowed S maxFrameBytes past event → kind event = true →
      ∀ e ∈ past, kind e = false := by
    intro past event hallowed hevent e he
    cases event with
    | installed other =>
      cases e with
      | installed earlier => exact absurd he (hallowed earlier)
      | _ => rfl
    | _ => cases hevent
  exact HandshakeEvent.installed.inj (h.eq_of_mem hkind htoken htoken' rfl rfl)

lemma length_promotions (h : Justified (Allowed S maxFrameBytes) log) :
    (promotions log).length ≤ 1 := by
  refine h.length_filter_le_one fun past event hallowed hevent e he => ?_
  cases event with
  | promoted frame closed =>
    cases e with
    | promoted frame' closed' => exact absurd he (hallowed.2.2.2 frame' closed')
    | _ => rfl
  | _ => cases hevent

/-- **Ready safety**, in every interleaving of the threads. -/
theorem readySafe_of_reachable (hS : S.KeepsShape) {s : Handshake}
    (hs : s.Reachable S maxFrameBytes) : s.ReadySafe S maxFrameBytes := by
  have h := valid_of_reachable hS hs
  have hjustified := h.flags.justified
  refine ⟨?_, fun token token' => installed_unique hjustified, length_promotions hjustified,
    h.flags.attended, ?_, ?_⟩
  · intro past frame closed rest heq
    obtain ⟨hopen, ⟨ready, hready⟩, ⟨token, htoken, hframe⟩, -⟩ := hjustified _ _ _ heq
    obtain ⟨before, between, rfl⟩ := List.append_of_mem hready
    -- the claim came after the confirmation, and that after the flush
    have hclaim := hjustified before (.answered ready true) (between ++ .promoted frame closed :: rest)
      (by simpa using heq)
    obtain ⟨before', between', rfl⟩ := List.append_of_mem hclaim.1
    obtain ⟨token', bytes, htoken', hbytes, hcarries⟩ := hjustified before' .confirmed
      (between' ++ .answered ready true :: between ++ .promoted frame closed :: rest)
      (by simpa using heq)
    obtain rfl : token' = token := by
      refine installed_unique hjustified ?_ ?_
      · simp [heq, htoken']
      · rw [heq]
        exact List.mem_append_left _ htoken
    exact ⟨hopen, token', _, ready, between, rfl, List.mem_append_left _ htoken', hframe, bytes,
      List.mem_append_left _ hbytes, hcarries⟩
  · intro past frame granted rest heq hearly
    cases granted with
    | false => rfl
    | true =>
      obtain ⟨hconfirmed, hnone⟩ := hjustified _ _ _ heq
      rcases hearly with ⟨other, hother⟩ | hnot
      · exact absurd hother (hnone other)
      · exact absurd hconfirmed hnot
  · intro frame hmem
    rcases h.flags.refused ⟨frame, hmem⟩ with hclosed | hclosing
    · exact Or.inl hclosed
    · exact Or.inr ⟨hclosing, exists_closed hS h hclosing⟩

end Safety

/-! ## A complete handshake -/

def exampleToken : String := "0123456789abcdef0123456789abcdef"

/-- The ready frame that answers the token. -/
def exampleReady : RpcFrame :=
  ⟨none, some "runtime/statusChanged", some (.object
    [("readyToken", .string exampleToken), ("status", .string "ready")]), .missing, none⟩

lemma exists_line : ∃ bytes, Carries compactSerde 1024 exampleToken bytes ∧
    isInitialized compactSerde 1024 bytes = true := by
  obtain ⟨bytes, hbytes⟩ : ∃ bytes, Carries compactSerde 1024 exampleToken bytes :=
    exists_ok_of_toBool (by decide +kernel)
  refine ⟨bytes, hbytes, ?_⟩
  obtain ⟨frame, hframe, hencode⟩ := bind_eq_ok.mp hbytes
  obtain ⟨rfl, k, hvalid⟩ := RpcFrame.validated_eq_ok.mp hframe
  obtain ⟨-, hraw, hlen, rfl⟩ := RpcFrame.encode_eq_ok.mp hencode
  have hsorted : (tokenParams exampleToken).WellSorted := by
    refine .object (by simp) ?_
    simp only [List.mem_singleton]
    rintro m rfl
    exact .string _
  have hdecode := RpcFrame.decodeFrame_toVec compactSerde_faithful
    ⟨by simpa using hsorted, Or.inl rfl, by simp⟩ (by decide +kernel)
    (RpcFrame.eachNumber_wireValue ?_ (by simp [Present.missing]) rfl) hvalid hraw hlen
  · simp [isInitialized, hdecode]
  · rintro params ⟨⟩
    refine .object ?_
    simp only [List.mem_singleton]
    rintro m rfl
    exact .string _

lemma reachable_of_foldlM {s s' : Handshake} (hs : s.Reachable compactSerde 1024)
    {actions : List HandshakeAction} (h : actions.foldlM (after compactSerde 1024) s = some s')
    (hactions : ∀ a ∈ actions, ∀ call message, a ≠ .send call (.start message)) :
    s'.Reachable compactSerde 1024 := by
  obtain ⟨past, hrun⟩ := hs
  refine ⟨past ++ actions, hrun.append (.of_foldlM h fun a ha t t' hstep => ⟨?_, hstep⟩)⟩
  cases a with
  | send call step =>
    cases step with
    | start message => exact absurd rfl (hactions _ ha call message)
    | _ => trivial
  | _ => trivial

/-- A session in which the challenge is installed. -/
def exampleInstalled : Handshake :=
  { initial with
    install := .done
    forbidden := [exampleToken]
    challenge := some exampleToken
    log := [.installed exampleToken] }

lemma reachable_installed : exampleInstalled.Reachable compactSerde 1024 := by
  have hvalid : validReadyToken exampleToken = true := rfl
  have hinstall : Step compactSerde 1024 initial (.install exampleToken)
      { initial with install := .forbidden exampleToken, forbidden := [exampleToken] } :=
    ⟨trivial, by simp [after, initial, hvalid]⟩
  have hrest : [.installNext, .installNext, .installNext, .installNext, .installNext].foldlM
      (after compactSerde 1024)
      { initial with install := .forbidden exampleToken, forbidden := [exampleToken] } =
        some exampleInstalled := rfl
  exact reachable_of_foldlM ⟨_, .snoc .nil hinstall⟩ hrest (by simp)

lemma reachable_delivered {bytes : List UInt8}
    (hbytes : Carries compactSerde 1024 exampleToken bytes) :
    ∃ calls, Reachable compactSerde 1024
      { exampleInstalled with
        initializedSent := true, calls := calls, queue := ⟨[bytes], [], 0⟩ } := by
  obtain ⟨actions, hrun⟩ := reachable_installed
  let params := tokenParams exampleToken
  have hparams : validateInitializedParams exampleInstalled.challenge params = true :=
    rfl
  have hstart : exampleInstalled.Step compactSerde 1024
      (.send 0 (.start (.notification "initialized" params)))
      (exampleInstalled.goto 0 (.validated params)) := by
    refine ⟨fun _ => rfl, ?_⟩
    exact if_pos (e := some (exampleInstalled.goto 0 .finished)) hparams
  let prepared : Handshake :=
    { exampleInstalled.goto 0 (.validated params) with initializedSent := true }.goto 0
      (.elected params) |>.goto 0 (.prepared params)
  have hprepare : [.send 0 .elect, .send 0 .prepare].foldlM (after compactSerde 1024)
      (exampleInstalled.goto 0 (.validated params)) = some prepared := rfl
  obtain ⟨actions', hrun'⟩ := reachable_of_foldlM ⟨_, hrun.snoc hstart⟩ hprepare (by simp)
  have hencode : prepared.Step compactSerde 1024 (.send 0 .encode)
      (prepared.goto 0 (.encoded true bytes .control)) := by
    have hbytes' : (RpcFrame.notification "initialized" params).bind
        (·.encode compactSerde 1024) = .ok bytes := hbytes
    have hcall : prepared.calls 0 = .prepared params := rfl
    refine ⟨trivial, ?_⟩
    rw [after, hcall, Handshake.sendNext, hbytes']
  have hdeliver : [.send 0 (.deliver .sent)].foldlM (after compactSerde 1024)
      (prepared.goto 0 (.encoded true bytes .control)) =
        some ({ prepared.goto 0 (.encoded true bytes .control) with
          queue := ⟨[bytes], [], 0⟩ }.goto 0 .finished) := rfl
  exact ⟨_, reachable_of_foldlM ⟨_, hrun'.snoc hencode⟩ hdeliver (by simp)⟩

lemma reachable_confirmed : ∃ calls bytes, Reachable compactSerde 1024
    { exampleInstalled with
      initializedSent := true
      barrier := .confirmed
      calls := calls
      queue := ⟨[], [], 1⟩
      log := [.installed exampleToken, .flushed bytes, .confirmed] } := by
  obtain ⟨bytes, hbytes, hline⟩ := exists_line
  obtain ⟨calls, actions, hrun⟩ := reachable_delivered hbytes
  let holding : Handshake :=
    { exampleInstalled with
      initializedSent := true, calls := calls, queue := ⟨[], [], 1⟩, writer := .holding bytes }
  have hholding : Run (Step compactSerde 1024) initial (actions ++ [.writer .next]) holding :=
    hrun.snoc ⟨trivial, rfl⟩
  have hsending : holding.Step compactSerde 1024 (.writer .start)
      { holding with barrier := .sending, writer := .sending true bytes } := by
    refine ⟨trivial, ?_⟩
    simp only [after, holding, Handshake.writerNext, hline]
    rfl
  have hwrite : [.writer (.write true), .writer (.join (some false)), .writer .complete].foldlM
      (after compactSerde 1024) { holding with barrier := .sending, writer := .sending true bytes } =
        some { exampleInstalled with
          initializedSent := true
          barrier := .confirmed
          calls := calls
          queue := ⟨[], [], 1⟩
          log := [.installed exampleToken, .flushed bytes, .confirmed] } := rfl
  exact ⟨calls, bytes, reachable_of_foldlM ⟨_, hholding.snoc hsending⟩ hwrite (by simp)⟩

/-- A session after its handshake. -/
theorem readySafe_promoted :
    ∃ s : Handshake, s.Reachable compactSerde 1024 ∧ .promoted exampleReady false ∈ s.log ∧
      s.ReadySafe compactSerde 1024 := by
  obtain ⟨calls, bytes, actions, hrun⟩ := reachable_confirmed
  have hvalidate : exampleReady.validate = .ok .notification := rfl
  have hsafe : framePayloadIsSafe [exampleToken] (some exampleToken) exampleReady true = true :=
    rfl
  have hready : exampleReady.isReady = true := rfl
  have htoken : exampleReady.readyToken = some exampleToken := rfl
  have hparams : exampleReady.params.any (readyParamsAreSafe [exampleToken] exampleToken) = true :=
    rfl
  have hvalid : validReadyToken exampleToken = true := rfl
  let received : Handshake :=
    { exampleInstalled with
      initializedSent := true
      barrier := .confirmed
      calls := calls
      queue := ⟨[], [], 1⟩
      reader := .dispatching exampleReady
      log := [.installed exampleToken, .flushed bytes, .confirmed, .received exampleReady] }
  have hreceive : Run (Step compactSerde 1024) initial (actions ++ [.reader (.receive exampleReady)])
      received := hrun.snoc ⟨trivial, rfl⟩
  have haudit : received.Step compactSerde 1024 (.reader (.audit false))
      { received with reader := .audited exampleReady } := by
    refine ⟨trivial, ?_⟩
    simp [after, received, Handshake.readerNext, Handshake.audit, hvalidate, exampleInstalled,
      InstallStage.running, hready, hsafe]
  let expecting : Handshake :=
    { received with
      claimed := true
      reader := .idle
      gate := .promoting (.expecting exampleToken) exampleReady
      log := [.installed exampleToken, .flushed bytes, .confirmed, .received exampleReady,
        .answered exampleReady true] }
  have hclaim : [.reader .testClosed, .reader .testBarrier, .reader .claim,
      .promotion exampleReady, .promotionNext, .promotionNext, .promotionNext, .promotionNext,
      .promotionNext].foldlM (after compactSerde 1024)
        { received with reader := .audited exampleReady } = some expecting := rfl
  obtain ⟨actions', hrun'⟩ := reachable_of_foldlM ⟨_, hreceive.snoc haudit⟩ hclaim (by simp)
  have hcompare : expecting.Step compactSerde 1024 .promotionNext
      { expecting with gate := .promoting .safe exampleReady } := by
    refine ⟨trivial, ?_⟩
    simp [after, expecting, received, Handshake.promotionNext, exampleInstalled,
      InstallStage.running, htoken, hvalid, hparams]
  have hpromote : [.promotionNext, .promotionNext].foldlM (after compactSerde 1024)
      { expecting with gate := .promoting .safe exampleReady } =
        some { expecting with
          gate := .free
          consumed := true
          log := expecting.log ++ [.promoted exampleReady false] } := rfl
  have hreachable := reachable_of_foldlM ⟨_, hrun'.snoc hcompare⟩ hpromote (by simp)
  exact ⟨_, hreachable, by simp, readySafe_of_reachable compactSerde_keepsShape hreachable⟩

end JaDesktop.Host.Handshake
