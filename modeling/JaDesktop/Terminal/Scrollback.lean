import Mathlib.Data.List.Induction
import JaDesktop.Terminal.Queues

/-!
# The scrollback of a terminal

The last bytes that a terminal has written, in the chunks in which they came.  A chunk that fills the
scrollback alone replaces it; otherwise the oldest chunks go as a whole, and so less may be left than
would fit.
-/

namespace JaDesktop.Terminal

/-- `isize::MAX`, which no allocation exceeds. -/
def isizeMax : ℕ := 2 ^ 63 - 1

structure Scrollback where
  chunks : List (List UInt8) := []
  bytes : ℕ := 0
  limit : ℕ

namespace Scrollback

/-- The loop of `append`. -/
def dropOldest (limit : ℕ) : List (List UInt8) → ℕ → List (List UInt8) × ℕ
  | [], bytes => ([], if bytes > limit then 0 else bytes)
  | chunk :: chunks, bytes =>
    if bytes > limit then dropOldest limit chunks (bytes - chunk.length) else (chunk :: chunks, bytes)

/-- The end of `append`, with what is left of the data. -/
def push (s : Scrollback) (data : List UInt8) : Scrollback :=
  let (chunks, bytes) :=
    dropOldest s.limit (s.chunks ++ [data]) (saturatingAdd s.bytes data.length)
  { s with chunks, bytes }

def append (s : Scrollback) (data : List UInt8) : Scrollback :=
  if data.length ≥ s.limit then
    push { s with chunks := [], bytes := 0 } (data.drop (data.length - s.limit))
  else s.push data

def snapshot (s : Scrollback) : List UInt8 := s.chunks.flatten

/-! ## What is kept -/

/-- The bytes are counted, and within the limit. -/
structure Sound (limit : ℕ) (s : Scrollback) : Prop where
  limit_eq : s.limit = limit
  bytes : s.snapshot.length = s.bytes
  bytes_le : s.bytes ≤ limit

lemma dropOldest_spec (limit : ℕ) (chunks : List (List UInt8)) {bytes : ℕ}
    (hbytes : bytes = chunks.flatten.length) :
    (dropOldest limit chunks bytes).1.flatten <:+ chunks.flatten ∧
      (dropOldest limit chunks bytes).2 = (dropOldest limit chunks bytes).1.flatten.length ∧
      (dropOldest limit chunks bytes).2 ≤ limit := by
  induction chunks generalizing bytes with
  | nil =>
    obtain rfl : bytes = 0 := hbytes
    simp [dropOldest]
  | cons chunk chunks ih =>
    rw [dropOldest]
    split_ifs with hover
    · rw [List.flatten_cons, List.length_append] at hbytes
      obtain ⟨hsuffix, hcounted, hle⟩ := @ih (bytes - chunk.length) (by omega)
      exact ⟨hsuffix.trans (List.suffix_append _ _), hcounted, hle⟩
    · exact ⟨List.suffix_refl _, hbytes, Nat.le_of_not_lt hover⟩

lemma dropOldest_of_le {limit bytes : ℕ} (chunks : List (List UInt8)) (h : bytes ≤ limit) :
    dropOldest limit chunks bytes = (chunks, bytes) := by
  cases chunks with
  | nil => rw [dropOldest, if_neg (Nat.not_lt_of_le h)]
  | cons chunk chunks => rw [dropOldest, if_neg (Nat.not_lt_of_le h)]

variable {limit : ℕ} {s : Scrollback} {data : List UInt8}

lemma saturatingAdd_of_limit {a b : ℕ} (hlimit : limit ≤ isizeMax) (ha : a ≤ limit)
    (hb : b ≤ limit) : saturatingAdd a b = a + b := by
  refine min_eq_left ?_
  have htwice : isizeMax + isizeMax ≤ usizeMax := by decide
  omega

lemma Sound.push (hlimit : limit ≤ isizeMax) (hs : s.Sound limit) (hdata : data.length ≤ limit) :
    (s.push data).Sound limit ∧ (s.push data).snapshot <:+ s.snapshot ++ data := by
  obtain ⟨rfl, hbytes, hle⟩ := hs
  have hcounted : saturatingAdd s.bytes data.length = (s.chunks ++ [data]).flatten.length := by
    rw [saturatingAdd_of_limit hlimit hle hdata, ← hbytes]
    simp [snapshot]
  obtain ⟨hsuffix, hsum, hwithin⟩ := dropOldest_spec s.limit (s.chunks ++ [data]) hcounted
  refine ⟨⟨rfl, hsum.symm, hwithin⟩, ?_⟩
  have hflatten : (s.chunks ++ [data]).flatten = s.snapshot ++ data := by simp [snapshot]
  rw [← hflatten]
  exact hsuffix

/-- A chunk that fills the scrollback is all that is left, by its last bytes. -/
lemma append_of_le (hlimit : s.limit ≤ isizeMax) (h : s.limit ≤ data.length) :
    s.append data =
      { s with chunks := [data.drop (data.length - s.limit)], bytes := s.limit } := by
  have hlength : (data.drop (data.length - s.limit)).length = s.limit := by
    rw [List.length_drop]
    omega
  rw [append, if_pos h, Scrollback.push, hlength,
    saturatingAdd_of_limit hlimit (Nat.zero_le _) le_rfl, Nat.zero_add, dropOldest_of_le _ le_rfl]
  rfl

lemma Sound.append (hlimit : limit ≤ isizeMax) (hs : s.Sound limit) (data : List UInt8) :
    (s.append data).Sound limit ∧ (s.append data).snapshot <:+ s.snapshot ++ data := by
  by_cases hfull : s.limit ≤ data.length
  · rw [append_of_le (hs.limit_eq.le.trans hlimit) hfull]
    have hlength : (data.drop (data.length - s.limit)).length = s.limit := by
      rw [List.length_drop]
      omega
    refine ⟨⟨hs.limit_eq, ?_, hs.limit_eq.le⟩, ?_⟩
    · simp [snapshot, hlength]
    · have hsnapshot : ([data.drop (data.length - s.limit)] : List (List UInt8)).flatten <:+ data := by
        rw [List.flatten_singleton]
        exact List.drop_suffix _ _
      exact hsnapshot.trans (List.suffix_append _ _)
  · rw [Scrollback.append, if_neg hfull]
    exact hs.push hlimit ((Nat.le_of_not_le hfull).trans hs.limit_eq.le)

/-- **What holds after every sequence of appends.** -/
structure Kept (limit : ℕ) (appended : List (List UInt8)) (s : Scrollback) : Prop where
  suffix : s.snapshot <:+ appended.flatten
  length : s.snapshot.length = s.bytes
  bytes_le : s.bytes ≤ limit
  newest : ∀ data ∈ appended.getLast?, limit ≤ data.length →
    s.snapshot = data.drop (data.length - limit)

lemma sound_foldl (hlimit : limit ≤ isizeMax) (appended : List (List UInt8)) :
    (appended.foldl append { limit }).Sound limit ∧
      (appended.foldl append { limit }).snapshot <:+ appended.flatten := by
  induction appended using List.reverseRecOn with
  | nil => exact ⟨⟨rfl, rfl, Nat.zero_le _⟩, List.suffix_refl _⟩
  | append_singleton appended data ih =>
    obtain ⟨hsound, hsuffix⟩ := ih
    obtain ⟨hsound', hsuffix'⟩ := hsound.append hlimit data
    rw [List.foldl_append, List.flatten_append, List.flatten_singleton]
    exact ⟨hsound', hsuffix'.trans (List.suffix_append_self_iff.mpr hsuffix)⟩

lemma kept_foldl (hlimit : limit ≤ isizeMax) (appended : List (List UInt8)) :
    Kept limit appended (appended.foldl append { limit }) := by
  obtain ⟨hsound, hsuffix⟩ := sound_foldl hlimit appended
  refine ⟨hsuffix, hsound.bytes, hsound.bytes_le, fun data hdata hfull => ?_⟩
  obtain ⟨before, rfl⟩ := List.getLast?_eq_some_iff.mp hdata
  obtain ⟨hbefore, -⟩ := sound_foldl hlimit before
  rw [List.foldl_append, List.foldl_cons, List.foldl_nil,
    append_of_le (hbefore.limit_eq.le.trans hlimit) (hbefore.limit_eq.le.trans hfull), snapshot,
    List.flatten_singleton, hbefore.limit_eq]

end Scrollback

end JaDesktop.Terminal
