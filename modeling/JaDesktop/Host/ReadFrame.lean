import JaDesktop.Host.Codec
import JaDesktop.Lib.BufRead

/-!
# Frames of a byte stream

`read_frame` collects a line from the chunks of a buffered reader.  What its calls return depends on
the stream alone and not on how it is cut into chunks.
-/

namespace JaDesktop.Host

variable {σ : Type}

/-! ## The loop -/

/-- The loop of `read_frame`, with the line so far. -/
def readFrameFrom (S : SerdeJson) (r : BufRead σ) (maxFrameBytes : ℕ) (line : List UInt8) (s : σ) :
    Except CodecError RpcFrame × σ :=
  match _h : r.fillBuf s with
  | .error () => (.error .io, s)
  | .ok (chunk, s') =>
    if _hempty : chunk = [] then
      (.error (if line.isEmpty then .unexpectedEof else .partialFrame), s')
    else match chunk.findIdx? (· == 0x0A) with
      | some index =>
        let payloadLen := line.length + index
        if payloadLen > maxFrameBytes then (.error (.frameTooLarge payloadLen maxFrameBytes), s')
        else
          (decodeFrame S (line ++ chunk.take (index + 1)) maxFrameBytes, r.consume s' (index + 1))
      | none =>
        if line.length + chunk.length > maxFrameBytes then
          (.error (.frameTooLarge (maxFrameBytes + 1) maxFrameBytes), s')
        else readFrameFrom S r maxFrameBytes (line ++ chunk) (r.consume s' chunk.length)
termination_by (r.pending s).length
decreasing_by exact BufRead.length_consume_lt _h _hempty

def readFrame (S : SerdeJson) (r : BufRead σ) (maxFrameBytes : ℕ) (s : σ) :
    Except CodecError RpcFrame × σ :=
  readFrameFrom S r maxFrameBytes [] s

/-- The reader after some calls of `read_frame`. -/
def readerAfter (S : SerdeJson) (r : BufRead σ) (maxFrameBytes : ℕ) : ℕ → σ → σ
  | 0, s => s
  | calls + 1, s => readerAfter S r maxFrameBytes calls (readFrame S r maxFrameBytes s).2

/-- What a call of `read_frame` returns, after some others. -/
def readAt (S : SerdeJson) (r : BufRead σ) (maxFrameBytes calls : ℕ) (s : σ) :
    Except CodecError RpcFrame :=
  (readFrame S r maxFrameBytes (readerAfter S r maxFrameBytes calls s)).1

/-! ## Lines -/

/-- The lines of a stream that end with LF. -/
def linesOf (stream : List UInt8) : List (List UInt8) :=
  (stream.splitOn 0x0A).dropLast

/-- What a stream has behind its last LF. -/
def tailOf (stream : List UInt8) : List UInt8 :=
  (stream.splitOn 0x0A).getLast (List.splitOn_ne_nil _ _)

/-- What is read from the lines of a stream, by call; nothing is said of the calls behind a line
that is too long. -/
def expectedAt (S : SerdeJson) (maxFrameBytes : ℕ) (tail : List UInt8) :
    List (List UInt8) → ℕ → Option (Except CodecError RpcFrame)
  | [], 0 =>
    if maxFrameBytes < tail.length then some (.error (.frameTooLarge tail.length maxFrameBytes))
    else some (.error (if tail.isEmpty then .unexpectedEof else .partialFrame))
  | [], _ + 1 => if maxFrameBytes < tail.length then none else some (.error .unexpectedEof)
  | line :: _, 0 =>
    if maxFrameBytes < line.length then some (.error (.frameTooLarge line.length maxFrameBytes))
    else some (decodeFrame S (line ++ [0x0A]) maxFrameBytes)
  | line :: lines, calls + 1 =>
    if maxFrameBytes < line.length then none else expectedAt S maxFrameBytes tail lines calls

/-- Two results agree but for the size that a line too long is said to have. -/
def SameButSize (x y : Except CodecError RpcFrame) : Prop :=
  x = y ∨ ∃ n m max, x = .error (.frameTooLarge n max) ∧ y = .error (.frameTooLarge m max)

section Reading

variable {S : SerdeJson} {r : BufRead σ} {maxFrameBytes calls : ℕ} {s s' : σ}
  {line body rest chunk stream : List UInt8} {x y z : Except CodecError RpcFrame}

lemma SameButSize.refl (x : Except CodecError RpcFrame) : SameButSize x x :=
  .inl rfl

lemma sameButSize_tooLarge (n m max : ℕ) :
    SameButSize (.error (.frameTooLarge n max)) (.error (.frameTooLarge m max)) :=
  .inr ⟨n, m, max, rfl, rfl⟩

/-! ## One chunk -/

lemma readFrameFrom_ended (h : r.fillBuf s = .ok ([], s')) :
    readFrameFrom S r maxFrameBytes line s =
      (.error (if line.isEmpty then .unexpectedEof else .partialFrame), s') := by
  rw [readFrameFrom]
  split
  next heq =>
    rw [h] at heq
    cases heq
  next heq =>
    rw [h] at heq
    cases heq
    rw [dif_pos rfl]

lemma readFrameFrom_filled (h : r.fillBuf s = .ok (chunk, s')) (hchunk : chunk ≠ []) :
    readFrameFrom S r maxFrameBytes line s =
      match chunk.findIdx? (· == 0x0A) with
      | some index =>
        if line.length + index > maxFrameBytes then
          (.error (.frameTooLarge (line.length + index) maxFrameBytes), s')
        else
          (decodeFrame S (line ++ chunk.take (index + 1)) maxFrameBytes, r.consume s' (index + 1))
      | none =>
        if line.length + chunk.length > maxFrameBytes then
          (.error (.frameTooLarge (maxFrameBytes + 1) maxFrameBytes), s')
        else readFrameFrom S r maxFrameBytes (line ++ chunk) (r.consume s' chunk.length) := by
  rw [readFrameFrom]
  split
  next heq =>
    rw [h] at heq
    cases heq
  next heq =>
    rw [h] at heq
    cases heq
    rw [dif_neg hchunk]

lemma findIdx?_newline (hbody : 0x0A ∉ body) :
    (body ++ 0x0A :: rest).findIdx? (· == 0x0A) = some body.length := by
  have hnone : body.findIdx? (· == 0x0A) = none := by
    rw [List.findIdx?_eq_none_iff]
    intro b hb
    exact beq_false_of_ne fun heq => hbody (heq ▸ hb)
  rw [List.findIdx?_append, hnone, List.findIdx?_cons]
  simp

lemma findIdx?_no_newline (hchunk : 0x0A ∉ chunk) : chunk.findIdx? (· == 0x0A) = none := by
  rw [List.findIdx?_eq_none_iff]
  intro b hb
  exact beq_false_of_ne fun heq => hchunk (heq ▸ hb)

lemma readFrameFrom_chunk (h : r.fillBuf s = .ok (chunk, s')) (hchunk : chunk ≠ [])
    (hnone : 0x0A ∉ chunk) :
    readFrameFrom S r maxFrameBytes line s =
      if line.length + chunk.length > maxFrameBytes then
        (.error (.frameTooLarge (maxFrameBytes + 1) maxFrameBytes), s')
      else readFrameFrom S r maxFrameBytes (line ++ chunk) (r.consume s' chunk.length) := by
  rw [readFrameFrom_filled h hchunk, findIdx?_no_newline hnone]

lemma readFrameFrom_newline (h : r.fillBuf s = .ok (body ++ 0x0A :: rest, s'))
    (hbody : 0x0A ∉ body) :
    readFrameFrom S r maxFrameBytes line s =
      if line.length + body.length > maxFrameBytes then
        (.error (.frameTooLarge (line.length + body.length) maxFrameBytes), s')
      else (decodeFrame S (line ++ body ++ [0x0A]) maxFrameBytes,
        r.consume s' (body.length + 1)) := by
  have htake : (body ++ 0x0A :: rest).take (body.length + 1) = body ++ [0x0A] := by
    rw [List.take_length_add_append]
    rfl
  rw [readFrameFrom_filled h (List.append_ne_nil_of_right_ne_nil _ (List.cons_ne_nil _ _)),
    findIdx?_newline hbody]
  dsimp only
  rw [htake, List.append_assoc]

/-! ## One line -/

lemma first_newline_unique {front back : List UInt8} (hfront : 0x0A ∉ front) (hbody : 0x0A ∉ body)
    (h : front ++ 0x0A :: back = body ++ 0x0A :: rest) : front = body ∧ back = rest := by
  rcases List.append_eq_append_iff.mp h with ⟨more, hmore, hrest⟩ | ⟨more, hmore, hrest⟩
  · cases more with
    | nil =>
      rw [List.append_nil] at hmore
      exact ⟨hmore.symm, (List.cons_inj_right _).mp hrest⟩
    | cons b more =>
      obtain ⟨rfl, -⟩ := List.cons_eq_cons.mp hrest
      exact absurd (hmore ▸ List.mem_append_right _ List.mem_cons_self) hbody
  · cases more with
    | nil =>
      rw [List.append_nil] at hmore
      exact ⟨hmore, ((List.cons_inj_right _).mp hrest).symm⟩
    | cons b more =>
      obtain ⟨rfl, -⟩ := List.cons_eq_cons.mp hrest
      exact absurd (hmore ▸ List.mem_append_right _ List.mem_cons_self) hfront

lemma exists_of_no_newline {chunk stream : List UInt8} (hchunk : 0x0A ∉ chunk)
    (h : body ++ 0x0A :: rest = chunk ++ stream) :
    ∃ more, body = chunk ++ more ∧ stream = more ++ 0x0A :: rest := by
  rcases List.append_eq_append_iff.mp h with ⟨more, hmore, hrest⟩ | h
  · cases more with
    | nil =>
      rw [List.append_nil] at hmore
      exact ⟨[], by rw [hmore, List.append_nil], hrest.symm⟩
    | cons b more =>
      obtain ⟨rfl, -⟩ := List.cons_eq_cons.mp hrest
      exact absurd (hmore ▸ List.mem_append_right _ List.mem_cons_self) hchunk
  · exact h

/-- **A call reads one line**: whatever the chunks are, it decodes the line and leaves what follows,
or the line is too long. -/
theorem readFrameFrom_line (S : SerdeJson) (maxFrameBytes : ℕ) (line : List UInt8)
    (hio : r.NeverFails) (hbody : 0x0A ∉ body)
    (hpending : r.pending s = body ++ 0x0A :: rest) :
    if maxFrameBytes < (line ++ body).length then
      SameButSize (readFrameFrom S r maxFrameBytes line s).1
        (.error (.frameTooLarge (line ++ body).length maxFrameBytes))
    else
      (readFrameFrom S r maxFrameBytes line s).1 =
          decodeFrame S (line ++ body ++ [0x0A]) maxFrameBytes ∧
        r.pending (readFrameFrom S r maxFrameBytes line s).2 = rest := by
  induction hn : body.length using Nat.strongRecOn generalizing line body s with
  | ind n ih =>
  obtain ⟨chunk, s', hfill⟩ := hio s
  have hchunk : chunk ≠ [] := by
    rintro rfl
    rw [BufRead.pending_eq_nil hfill] at hpending
    exact List.append_ne_nil_of_right_ne_nil _ (List.cons_ne_nil _ _) hpending.symm
  have hconsumed := BufRead.pending_consume_chunk hfill
  rw [hpending] at hconsumed
  rw [List.length_append]
  by_cases hmem : 0x0A ∈ chunk
  · -- The chunk has the end of the line, so it begins with the rest of the line.
    obtain ⟨front, back, rfl, hfront⟩ := List.eq_append_cons_of_mem hmem
    rw [List.append_assoc, List.cons_append] at hconsumed
    obtain ⟨rfl, rfl⟩ := first_newline_unique hfront hbody hconsumed.symm
    rw [readFrameFrom_newline hfill hfront]
    split_ifs
    · exact .refl _
    · refine ⟨rfl, ?_⟩
      have hle : front.length + 1 ≤ (front ++ 0x0A :: back).length := by
        rw [List.length_append, List.length_cons]
        omega
      show r.pending (r.consume s' (front.length + 1)) = _
      rw [r.pending_consume _ _ _ _ hfill hle, hpending, List.drop_length_add_append]
      rfl
  · -- The chunk lies within the line.
    obtain ⟨more, rfl, hlater⟩ := exists_of_no_newline hmem hconsumed
    have hpos := List.length_pos_iff.mpr hchunk
    rw [List.length_append] at hn ⊢
    rw [readFrameFrom_chunk hfill hchunk hmem]
    by_cases hlong : line.length + chunk.length > maxFrameBytes
    · rw [if_pos hlong, if_pos (by omega)]
      exact sameButSize_tooLarge _ _ _
    · rw [if_neg hlong]
      have hmore := ih more.length (by omega) (line ++ chunk)
        (fun h => hbody (List.mem_append_right _ h)) hlater rfl
      rw [List.append_assoc, List.length_append, List.length_append] at hmore
      exact hmore

/-- **The end of the stream**: what it has behind its last LF is no frame. -/
theorem readFrameFrom_tail (S : SerdeJson) (maxFrameBytes : ℕ) (line : List UInt8)
    (hio : r.NeverFails) (hbody : 0x0A ∉ body)
    (hpending : r.pending s = body) (hline : line.length ≤ maxFrameBytes) :
    if maxFrameBytes < (line ++ body).length then
      SameButSize (readFrameFrom S r maxFrameBytes line s).1
        (.error (.frameTooLarge (line ++ body).length maxFrameBytes))
    else
      (readFrameFrom S r maxFrameBytes line s).1 =
          .error (if (line ++ body).isEmpty then .unexpectedEof else .partialFrame) ∧
        r.pending (readFrameFrom S r maxFrameBytes line s).2 = [] := by
  induction hn : body.length using Nat.strongRecOn generalizing line body s with
  | ind n ih =>
  obtain ⟨chunk, s', hfill⟩ := hio s
  have hconsumed := BufRead.pending_consume_chunk hfill
  rw [hpending] at hconsumed
  by_cases hchunk : chunk = []
  · subst hchunk
    obtain rfl : body = [] := by rw [← hpending, BufRead.pending_eq_nil hfill]
    rw [readFrameFrom_ended hfill, List.append_nil, if_neg (Nat.not_lt.mpr hline)]
    exact ⟨rfl, by rw [r.pending_fillBuf _ _ _ hfill, hpending]⟩
  · have hmem : 0x0A ∉ chunk := fun h => hbody (hconsumed ▸ List.mem_append_left _ h)
    have hpos := List.length_pos_iff.mpr hchunk
    rw [readFrameFrom_chunk hfill hchunk hmem]
    obtain ⟨more, hlater⟩ : ∃ more, r.pending (r.consume s' chunk.length) = more := ⟨_, rfl⟩
    rw [hlater] at hconsumed
    subst hconsumed
    rw [List.length_append] at hn
    by_cases hlong : line.length + chunk.length > maxFrameBytes
    · rw [if_pos hlong, if_pos (by rw [List.length_append, List.length_append]; omega)]
      exact sameButSize_tooLarge _ _ _
    · rw [if_neg hlong]
      have hmore := ih more.length (by omega) (line ++ chunk)
        (fun h => hbody (List.mem_append_right _ h)) hlater
        (by rw [List.length_append]; omega) rfl
      rw [List.append_assoc] at hmore
      exact hmore

/-! ## All calls -/

lemma linesOf_cons (hbody : 0x0A ∉ body) :
    linesOf (body ++ 0x0A :: rest) = body :: linesOf rest := by
  rw [linesOf, List.splitOn_append_cons_self_of_not_mem hbody,
    List.dropLast_cons_of_ne_nil (List.splitOn_ne_nil _ _)]
  rfl

lemma tailOf_cons (hbody : 0x0A ∉ body) : tailOf (body ++ 0x0A :: rest) = tailOf rest := by
  simp only [tailOf, List.splitOn_append_cons_self_of_not_mem hbody]
  exact List.getLast_cons _

lemma linesOf_of_no_newline (h : 0x0A ∉ stream) : linesOf stream = [] := by
  rw [linesOf, List.splitOn_eq_singleton h]
  rfl

lemma tailOf_of_no_newline (h : 0x0A ∉ stream) : tailOf stream = stream := by
  simp only [tailOf, List.splitOn_eq_singleton h]
  rfl

section

variable (hio : r.NeverFails)
include hio

lemma readFrame_line (hbody : 0x0A ∉ body)
    (hpending : r.pending s = body ++ 0x0A :: rest) (hlong : ¬maxFrameBytes < body.length) :
    (readFrame S r maxFrameBytes s).1 = decodeFrame S (body ++ [0x0A]) maxFrameBytes ∧
      r.pending (readFrame S r maxFrameBytes s).2 = rest := by
  have hline := readFrameFrom_line S maxFrameBytes [] hio hbody hpending
  rw [List.nil_append, if_neg hlong] at hline
  exact hline

lemma readFrame_long_line (hbody : 0x0A ∉ body)
    (hpending : r.pending s = body ++ 0x0A :: rest) (hlong : maxFrameBytes < body.length) :
    SameButSize (readFrame S r maxFrameBytes s).1
      (.error (.frameTooLarge body.length maxFrameBytes)) := by
  have hline := readFrameFrom_line S maxFrameBytes [] hio hbody hpending
  rw [List.nil_append, if_pos hlong] at hline
  exact hline

lemma readFrame_tail (hbody : 0x0A ∉ body) (hpending : r.pending s = body)
    (hlong : ¬maxFrameBytes < body.length) :
    (readFrame S r maxFrameBytes s).1 =
        .error (if body.isEmpty then .unexpectedEof else .partialFrame) ∧
      r.pending (readFrame S r maxFrameBytes s).2 = [] := by
  have htail := readFrameFrom_tail S maxFrameBytes [] hio hbody hpending (Nat.zero_le _)
  rw [List.nil_append, if_neg hlong] at htail
  exact htail

lemma readFrame_long_tail (hbody : 0x0A ∉ body) (hpending : r.pending s = body)
    (hlong : maxFrameBytes < body.length) :
    SameButSize (readFrame S r maxFrameBytes s).1
      (.error (.frameTooLarge body.length maxFrameBytes)) := by
  have htail := readFrameFrom_tail S maxFrameBytes [] hio hbody hpending (Nat.zero_le _)
  rw [List.nil_append, if_pos hlong] at htail
  exact htail

lemma readAt_ended (hpending : r.pending s = []) :
    readAt S r maxFrameBytes calls s = .error .unexpectedEof := by
  induction calls generalizing s with
  | zero => exact (readFrame_tail hio List.not_mem_nil hpending (Nat.not_lt_zero _)).1
  | succ calls ih => exact ih (readFrame_tail hio List.not_mem_nil hpending (Nat.not_lt_zero _)).2

lemma readAt_tail (hbody : 0x0A ∉ body) (hpending : r.pending s = body)
    (result : Except CodecError RpcFrame)
    (hresult : expectedAt S maxFrameBytes body [] calls = some result) :
    SameButSize (readAt S r maxFrameBytes calls s) result := by
  cases calls with
  | zero =>
    rw [expectedAt] at hresult
    by_cases hlong : maxFrameBytes < body.length
    · rw [if_pos hlong] at hresult
      obtain rfl := Option.some_inj.mp hresult
      exact readFrame_long_tail hio hbody hpending hlong
    · rw [if_neg hlong] at hresult
      obtain rfl := Option.some_inj.mp hresult
      exact .inl (readFrame_tail hio hbody hpending hlong).1
  | succ calls =>
    rw [expectedAt] at hresult
    split_ifs at hresult with hlong
    obtain rfl := Option.some_inj.mp hresult
    show SameButSize (readAt S r maxFrameBytes calls (readFrame S r maxFrameBytes s).2) _
    exact .inl (readAt_ended hio (readFrame_tail hio hbody hpending hlong).2)

lemma readAt_line (hbody : 0x0A ∉ body)
    (hpending : r.pending s = body ++ 0x0A :: rest) (result : Except CodecError RpcFrame)
    (hresult : expectedAt S maxFrameBytes (tailOf rest) (body :: linesOf rest) 0 = some result) :
    SameButSize (readAt S r maxFrameBytes 0 s) result := by
  rw [expectedAt] at hresult
  split_ifs at hresult with hlong
  · obtain rfl := Option.some_inj.mp hresult
    exact readFrame_long_line hio hbody hpending hlong
  · obtain rfl := Option.some_inj.mp hresult
    exact .inl (readFrame_line hio hbody hpending hlong).1

end

end Reading

/-- **Frames of a stream**: however a stream is cut into chunks, the calls of `read_frame` return
the frames of its lines up to a line that is too long or up to its end, and each call that returns
what a line holds has read that line only. -/
theorem frames_of_stream (S : SerdeJson) (r : BufRead σ) (maxFrameBytes : ℕ) (s : σ)
    (hio : r.NeverFails) (calls : ℕ) :
    (∀ result, expectedAt S maxFrameBytes (tailOf (r.pending s)) (linesOf (r.pending s)) calls =
        some result → SameButSize (readAt S r maxFrameBytes calls s) result) ∧
      ∀ line, (linesOf (r.pending s))[calls]? = some line →
        (∀ earlier ∈ (linesOf (r.pending s)).take (calls + 1), earlier.length ≤ maxFrameBytes) →
        r.pending (readerAfter S r maxFrameBytes calls s) =
          line ++ 0x0A :: r.pending (readerAfter S r maxFrameBytes (calls + 1) s) := by
  induction calls generalizing s with
  | zero =>
    by_cases hmem : 0x0A ∈ r.pending s
    · obtain ⟨body, rest, hpending, hbody⟩ := List.eq_append_cons_of_mem hmem
      rw [hpending, linesOf_cons hbody, tailOf_cons hbody]
      refine ⟨readAt_line hio hbody hpending, ?_⟩
      intro line hline hshort
      obtain rfl := Option.some_inj.mp hline
      have hle := hshort body List.mem_cons_self
      obtain ⟨-, hrest⟩ := readFrame_line (S := S) hio hbody hpending (Nat.not_lt.mpr hle)
      show r.pending s = body ++ 0x0A :: r.pending (readFrame S r maxFrameBytes s).2
      rw [hrest, hpending]
    · rw [linesOf_of_no_newline hmem, tailOf_of_no_newline hmem]
      refine ⟨readAt_tail hio hmem rfl, ?_⟩
      intro line hline
      cases hline
  | succ calls ih =>
    by_cases hmem : 0x0A ∈ r.pending s
    · obtain ⟨body, rest, hpending, hbody⟩ := List.eq_append_cons_of_mem hmem
      rw [hpending, linesOf_cons hbody, tailOf_cons hbody]
      obtain ⟨hresults, hlines⟩ := ih (readFrame S r maxFrameBytes s).2
      constructor
      · intro result hresult
        rw [expectedAt] at hresult
        split_ifs at hresult with hlong
        rw [(readFrame_line (S := S) hio hbody hpending hlong).2] at hresults
        exact hresults result hresult
      · intro line hline hshort
        rw [List.take_succ_cons] at hshort
        have hlong := Nat.not_lt.mpr (hshort body List.mem_cons_self)
        rw [(readFrame_line (S := S) hio hbody hpending hlong).2] at hlines
        exact hlines line hline fun earlier h => hshort earlier (List.mem_cons_of_mem _ h)
    · rw [linesOf_of_no_newline hmem, tailOf_of_no_newline hmem]
      refine ⟨readAt_tail hio hmem rfl, ?_⟩
      intro line hline
      cases hline

/-- The second call at a stream with one line, which is cut within that line. -/
theorem frames_of_stream_cut :
    SameButSize (readAt compactSerde BufRead.ofChunks 3 1 [[0x7B], [0x7D, 0x0A, 0x7B]])
      (.error .partialFrame) :=
  (frames_of_stream compactSerde BufRead.ofChunks 3 [[0x7B], [0x7D, 0x0A, 0x7B]]
    BufRead.neverFails_ofChunks 1).1 _ (by decide)

end JaDesktop.Host
