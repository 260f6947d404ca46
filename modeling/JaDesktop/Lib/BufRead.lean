import Mathlib.Algebra.Order.Ring.Int
import Mathlib.Data.List.Basic

/-!
# Buffered readers

A reader that hands out the bytes of a stream in chunks of its own choice.  Each chunk is a piece of
what is still to come, an empty one says that nothing is, and only what is consumed is gone.
-/

namespace JaDesktop

/-- `BufRead`, with the bytes that are still to come. -/
structure BufRead (σ : Type) where
  pending : σ → List UInt8
  fillBuf : σ → Except Unit (List UInt8 × σ)
  consume : σ → ℕ → σ
  pending_fillBuf : ∀ s chunk s', fillBuf s = .ok (chunk, s') → pending s' = pending s
  exists_rest : ∀ s chunk s', fillBuf s = .ok (chunk, s') →
    ∃ rest, pending s = chunk ++ rest ∧ (chunk = [] → rest = [])
  pending_consume : ∀ s chunk s' n, fillBuf s = .ok (chunk, s') → n ≤ chunk.length →
    pending (consume s' n) = (pending s).drop n

namespace BufRead

variable {σ : Type} {r : BufRead σ} {s s' : σ} {chunk : List UInt8}

/-- No read of the reader fails. -/
def NeverFails (r : BufRead σ) : Prop :=
  ∀ s, ∃ chunk s', r.fillBuf s = .ok (chunk, s')

lemma pending_consume_chunk (h : r.fillBuf s = .ok (chunk, s')) :
    r.pending s = chunk ++ r.pending (r.consume s' chunk.length) := by
  obtain ⟨rest, hrest, -⟩ := r.exists_rest s chunk s' h
  rw [r.pending_consume s chunk s' _ h le_rfl, hrest, List.drop_left]

lemma pending_eq_nil (h : r.fillBuf s = .ok ([], s')) : r.pending s = [] := by
  obtain ⟨rest, hrest, hempty⟩ := r.exists_rest s [] s' h
  rw [hrest, hempty rfl, List.append_nil]

lemma length_consume_lt (h : r.fillBuf s = .ok (chunk, s')) (hchunk : chunk ≠ []) :
    (r.pending (r.consume s' chunk.length)).length < (r.pending s).length := by
  have hlength := congrArg List.length (pending_consume_chunk h)
  rw [List.length_append] at hlength
  have hpos := List.length_pos_iff.mpr hchunk
  omega

/-! ## A reader of given chunks -/

/-- The chunk at hand of a reader that has been given its chunks. -/
def chunkOf : List (List UInt8) → List UInt8
  | [] => []
  | [] :: chunks => chunkOf chunks
  | chunk :: _ => chunk

/-- Some bytes of the chunk at hand are consumed. -/
def consumeOf : List (List UInt8) → ℕ → List (List UInt8)
  | [], _ => []
  | [] :: chunks, n => consumeOf chunks n
  | (b :: chunk) :: chunks, n => (b :: chunk).drop n :: chunks

lemma exists_rest_chunkOf (chunks : List (List UInt8)) :
    ∃ rest, chunks.flatten = chunkOf chunks ++ rest ∧ (chunkOf chunks = [] → rest = []) := by
  induction chunks with
  | nil => exact ⟨[], rfl, fun _ => rfl⟩
  | cons chunk chunks ih =>
    cases chunk with
    | nil => exact ih
    | cons b chunk => exact ⟨chunks.flatten, rfl, fun h => absurd h (List.cons_ne_nil _ _)⟩

lemma flatten_consumeOf {chunks : List (List UInt8)} {n : ℕ} (h : n ≤ (chunkOf chunks).length) :
    (consumeOf chunks n).flatten = chunks.flatten.drop n := by
  induction chunks with
  | nil =>
    rw [List.flatten_nil, List.drop_nil]
    rfl
  | cons chunk chunks ih =>
    cases chunk with
    | nil => exact ih h
    | cons b chunk =>
      show ((b :: chunk).drop n :: chunks).flatten = ((b :: chunk) :: chunks).flatten.drop n
      have hle : n ≤ (b :: chunk).length := h
      rw [List.flatten_cons, List.flatten_cons, List.drop_append_of_le_length hle]

/-- A reader that has been given its chunks. -/
def ofChunks : BufRead (List (List UInt8)) where
  pending := List.flatten
  fillBuf chunks := .ok (chunkOf chunks, chunks)
  consume := consumeOf
  pending_fillBuf := by
    intro s chunk s' h
    cases h
    rfl
  exists_rest := by
    intro s chunk s' h
    cases h
    exact exists_rest_chunkOf s
  pending_consume := by
    intro s chunk s' n h hn
    cases h
    exact flatten_consumeOf hn

lemma neverFails_ofChunks : ofChunks.NeverFails :=
  fun _ => ⟨_, _, rfl⟩

end BufRead

end JaDesktop
