import JaDesktop.Lib.Encoder
import JaDesktop.Lib.Outcomes
import JaDesktop.Lib.Runs
import JaDesktop.Sidecar.JaErrorCode
import JaDesktop.Sidecar.Protocol

/-!
# The text of an item

`ItemState` is a snapshot of an item.  Its text is a base and a chain of chunks, which a snapshot
shares with the snapshots it was appended to; the text is put together when it is asked for, and
kept.  Here the objects lie on a heap and refer to each other by their places.  Whatever is called
on whichever snapshots, each keeps the text of its own history.
-/

namespace JaDesktop.Sidecar.Items

/-! ## Kinds and faults -/

inductive ItemKind
  | userMessage
  | agentMessage
  | commentary
  | reasoningSummary
  | plan
  | toolCall
  | command
  | fileChange
  | approval
  | subagent
  | contextCompaction
  | runtimeNotice
deriving DecidableEq

inductive ItemStatus
  | started
  | inProgress
  | completed
  | failed
  | cancelled
deriving DecidableEq

def ItemStatus.terminal (status : ItemStatus) : Bool :=
  status == .completed || status == .failed || status == .cancelled

def transitions : ItemStatus → List ItemStatus
  | .started => [.inProgress, .completed, .failed, .cancelled]
  | .inProgress => [.completed, .failed, .cancelled]
  | .completed => []
  | .failed => []
  | .cancelled => []

lemma transitions_of_terminal {status : ItemStatus} (h : status.terminal = true) :
    transitions status = [] := by
  cases status with
  | started => cases h
  | inProgress => cases h
  | completed => rfl
  | failed => rfl
  | cancelled => rfl

/-- What a call throws. -/
inductive Fault
  | nullPointer (name : String)
  | illegalArgument (message : String)
  | protocol (code : JaErrorCode)
deriving DecidableEq

/-- `Objects.requireNonNull`. -/
def requireNonNull {α : Type} (name : String) : Option α → Except Fault α
  | some a => .ok a
  | none => .error (.nullPointer name)

/-! ## Limits -/

def maxTextBytes : ℤ := 1048576

def defaultDeltaBytes : ℤ := 65536

def minItemDeltaBytes : ℤ := 256

def maxDeltaBytes : ℤ := 1048576

/-! ## Checks -/

/-- `UnicodeChecks.wellFormed`, which throws. -/
def requireWellFormed (field : String) (value : JavaString) : Except Fault Unit :=
  reject (!wellFormed value) (.illegalArgument (field ++ " contains an unpaired surrogate"))

def utf8Bytes : Option JavaString → Except Fault ℤ
  | none => .ok 0
  | some text => do
    requireWellFormed "item text" text
    return (getBytes text).length

def validateTitle : Option JavaString → Except Fault Unit
  | none => .ok ()
  | some title => do
    reject (decide (512 < title.length) || title.contains 0x0A)
      (.illegalArgument "invalid item title")
    requireWellFormed "item title" title

def validateBudget (maxDelta maxText : ℤ) : Except Fault Unit :=
  reject (decide (maxDelta < minItemDeltaBytes) || decide (maxDelta > maxDeltaBytes) ||
      decide (maxText < 1) || decide (maxText > maxTextBytes))
    (.illegalArgument "item text budgets are outside v1 bounds")

/-! ## Objects -/

/-- `TextChunk`, with the place of its predecessor. -/
structure TextChunk where
  previous : Option ℕ
  delta : JavaString
deriving DecidableEq

/-- `TextAccumulator`, with the place of its last chunk. -/
structure TextAccumulator where
  base : Option JavaString
  tail : Option ℕ
  charCount : ℕ
deriving DecidableEq

structure ItemState where
  itemId : JavaString
  turnId : JavaString
  kind : ItemKind
  status : ItemStatus
  title : Option JavaString
  textAccumulator : TextAccumulator
  textBytes : ℤ
  textMaterialized : Bool
  materializedText : Option JavaString
deriving DecidableEq

/-- The chunks and the snapshots that there are. -/
structure Heap where
  chunks : List TextChunk
  items : List ItemState
deriving DecidableEq

namespace TextAccumulator

def initial (text : Option JavaString) : TextAccumulator :=
  ⟨text, none, (text.getD []).length⟩

/-- `append`, with the chunks that there are behind it. -/
def append (acc : TextAccumulator) (chunks : List TextChunk) (delta : JavaString) :
    TextAccumulator × List TextChunk :=
  if delta.isEmpty && (acc.base.isSome || acc.tail.isSome) then (acc, chunks)
  else (⟨acc.base, some chunks.length, acc.charCount + delta.length⟩, chunks ++ [⟨acc.tail, delta⟩])

/-- The loop of `materialize`, in so many steps; the deque is filled from its front. -/
def collect (chunks : List TextChunk) : ℕ → Option ℕ → List JavaString → Option (List JavaString)
  | _, none, deque => some deque
  | 0, some _, _ => none
  | steps + 1, some current, deque =>
    match chunks[current]? with
    | none => none
    | some chunk => collect chunks steps chunk.previous (chunk.delta :: deque)

/-- `materialize`, or nothing where the loop would not end. -/
def materialize (acc : TextAccumulator) (chunks : List TextChunk) : Option (Option JavaString) :=
  if acc.tail.isNone then some acc.base
  else (collect chunks chunks.length acc.tail []).map fun deltas =>
    some (acc.base.getD [] ++ deltas.flatten)

end TextAccumulator

namespace ItemState

/-- The public constructor. -/
def new (itemId turnId : Option JavaString) (kind : Option ItemKind) (status : Option ItemStatus)
    (title text : Option JavaString) : Except Fault ItemState := do
  let itemId ← requireNonNull "itemId" itemId
  let turnId ← requireNonNull "turnId" turnId
  let kind ← requireNonNull "kind" kind
  let status ← requireNonNull "status" status
  validateTitle title
  checkSome (requireWellFormed "item text") text
  let textBytes ← utf8Bytes text
  reject (decide (textBytes > maxTextBytes)) (.illegalArgument "item text is too large")
  return ⟨itemId, turnId, kind, status, title, .initial text, textBytes, false, none⟩

/-- The private constructor. -/
def next (previous : ItemState) (textAccumulator : TextAccumulator) (textBytes : ℤ) :
    Except Fault ItemState := do
  reject (decide (textBytes < 0) || decide (textBytes > maxTextBytes))
    (.illegalArgument "item UTF-8 byte count is out of bounds")
  return ⟨previous.itemId, previous.turnId, previous.kind, previous.status, previous.title,
    textAccumulator, textBytes, false, none⟩

def transition (item : ItemState) (next : Option ItemStatus) (nextText : Option JavaString) :
    Except Fault ItemState := do
  let next ← requireNonNull "next" next
  reject (!(transitions item.status).contains next) (.protocol .invalidState)
  new (some item.itemId) (some item.turnId) (some item.kind) (some next) item.title nextText

/-- The checks of `appendDelta`, with the bytes of the delta. -/
def checkDelta (item : ItemState) (delta : Option JavaString) (maxDelta maxText : ℤ) :
    Except Fault (JavaString × ℤ) := do
  let delta ← requireNonNull "delta" delta
  validateBudget maxDelta maxText
  reject item.status.terminal (.protocol .invalidState)
  let deltaBytes ← utf8Bytes (some delta)
  reject (decide (deltaBytes > maxDelta) || decide (item.textBytes > maxText - deltaBytes))
    (.protocol .payloadTooLarge)
  return (delta, deltaBytes)

end ItemState

/-! ## Calls -/

/-- A call on the snapshots that there are. -/
inductive Call
  | construct (itemId turnId : Option JavaString) (kind : Option ItemKind)
      (status : Option ItemStatus) (title text : Option JavaString)
  | appendDelta (item : ℕ) (delta : Option JavaString) (maxDelta maxText : ℤ)
  | transition (item : ℕ) (next : Option ItemStatus) (nextText : Option JavaString)
  | text (item : ℕ)
deriving DecidableEq

def Call.started (itemId turnId : Option JavaString) (kind : Option ItemKind)
    (title : Option JavaString) : Call :=
  .construct itemId turnId kind (some .started) title none

/-- `appendDelta` with the default ceilings. -/
def Call.appendDefault (item : ℕ) (delta : Option JavaString) : Call :=
  .appendDelta item delta defaultDeltaBytes maxTextBytes

/-- What a call returns: the place of a new snapshot, or a text. -/
inductive Returned
  | item (place : ℕ)
  | text (value : Option JavaString)
deriving DecidableEq

namespace Heap

/-- A snapshot comes on the heap, when its constructor gave it. -/
def add (heap : Heap) : Except Fault ItemState → Heap × Except Fault Returned
  | .error fault => (heap, .error fault)
  | .ok item => ({ heap with items := heap.items ++ [item] }, .ok (.item heap.items.length))

def appendDelta (heap : Heap) (item : ItemState) (delta : Option JavaString)
    (maxDelta maxText : ℤ) : Heap × Except Fault Returned :=
  match item.checkDelta delta maxDelta maxText with
  | .error fault => (heap, .error fault)
  | .ok (delta, deltaBytes) =>
    let (acc, chunks) := item.textAccumulator.append heap.chunks delta
    { heap with chunks := chunks }.add (item.next acc (item.textBytes + deltaBytes))

/-- `text`, which keeps what it has put together. -/
def text (heap : Heap) (place : ℕ) (item : ItemState) : Option (Heap × Option JavaString) :=
  if item.textMaterialized then some (heap, item.materializedText)
  else (item.textAccumulator.materialize heap.chunks).map fun text =>
    ({ heap with
        items := heap.items.set place
          { item with textMaterialized := true, materializedText := text } }, text)

/-- A call on a heap; nothing for a snapshot that is not there. -/
def perform (heap : Heap) : Call → Option (Heap × Except Fault Returned)
  | .construct itemId turnId kind status title text =>
    some (heap.add (ItemState.new itemId turnId kind status title text))
  | .appendDelta item delta maxDelta maxText =>
    heap.items[item]?.map fun item => heap.appendDelta item delta maxDelta maxText
  | .transition item next nextText =>
    heap.items[item]?.map fun item => heap.add (item.transition next nextText)
  | .text place =>
    heap.items[place]?.bind fun item =>
      (heap.text place item).map fun (heap, text) => (heap, .ok (.text text))

end Heap

/-! ## Histories -/

/-- What a snapshot's text is made of: the text it was constructed with, or the one of the last
transition, and the deltas that were appended since. -/
structure Story where
  base : Option JavaString
  deltas : List JavaString
deriving DecidableEq

/-- The text of a history. -/
def Story.text (story : Story) : Option JavaString :=
  if story.base = none ∧ story.deltas = [] then none
  else some (story.base.getD [] ++ story.deltas.flatten)

/-- The heap with the history of each snapshot. -/
structure World where
  heap : Heap
  stories : List Story
deriving DecidableEq

/-- The history of the snapshot that a call makes. -/
def World.story (world : World) : Call → Story
  | .construct _ _ _ _ _ text => ⟨text, []⟩
  | .appendDelta item delta _ _ =>
    let story := world.stories.getD item ⟨none, []⟩
    ⟨story.base, story.deltas ++ [delta.getD []]⟩
  | .transition _ _ nextText => ⟨nextText, []⟩
  | .text _ => ⟨none, []⟩

/-- A world in which nothing has been called yet. -/
def World.empty : World := ⟨⟨[], []⟩, []⟩

/-- The histories after a call. -/
def World.storiesAfter (world : World) (call : Call) : Except Fault Returned → List Story
  | .ok (.item _) => world.stories ++ [world.story call]
  | _ => world.stories

/-- A call and what it returns. -/
def World.Step (world : World) (event : Call × Except Fault Returned) (world' : World) : Prop :=
  world.heap.perform event.1 = some (world'.heap, event.2) ∧
    world'.stories = world.storiesAfter event.1 event.2

/-! ## Bytes -/

section Bytes

variable {s t : JavaString}

lemma head_of_wellFormed (h : wellFormed t = true) : ∀ l ∈ t.head?, isLowSurrogate l = false := by
  intro l hl
  cases t with
  | nil => cases hl
  | cons u t =>
    obtain rfl := Option.some_inj.mp hl
    rw [wellFormed.eq_def] at h
    cases hhigh : isHighSurrogate u with
    | true =>
      simp only [isHighSurrogate, Bool.and_eq_true, decide_eq_true_eq] at hhigh
      simp only [isLowSurrogate, Bool.and_eq_false_iff, decide_eq_false_iff_not]
      omega
    | false =>
      simp only [hhigh, Bool.false_eq_true, if_false] at h
      by_contra hlow
      rw [Bool.not_eq_false] at hlow
      simp [hlow] at h

lemma getBytes_append (ht : wellFormed t = true) :
    getBytes (s ++ t) = getBytes s ++ getBytes t := by
  rw [getBytes, encodedChars_append (head_of_wellFormed ht), utf8_append]
  rfl

lemma utf8Bytes_eq_ok {text : Option JavaString} {n : ℤ} :
    utf8Bytes text = .ok n ↔
      wellFormed (text.getD []) = true ∧ n = (getBytes (text.getD [])).length := by
  cases text with
  | none =>
    have hnil : getBytes [] = [] := rfl
    simp [utf8Bytes, wellFormed, hnil, eq_comm]
  | some text =>
    simp only [utf8Bytes, requireWellFormed, bind_eq_ok, reject_eq_ok, Bool.not_eq_false',
      exists_unit, Option.getD_some, pure, Except.pure, Except.ok.injEq]
    exact and_congr_right fun _ => eq_comm

end Bytes

/-! ## Chains -/

section Chains

variable {chunks : List TextChunk} {tail : Option ℕ} {deltas deque : List JavaString} {steps : ℕ}

/-- The deltas of a chain of chunks, each of which lies behind its predecessor. -/
inductive Spells (chunks : List TextChunk) : Option ℕ → List JavaString → Prop
  | nil : Spells chunks none []
  | snoc {place : ℕ} {chunk : TextChunk} {deltas : List JavaString} :
      chunks[place]? = some chunk → (∀ previous ∈ chunk.previous, previous < place) →
      Spells chunks chunk.previous deltas → Spells chunks (some place) (deltas ++ [chunk.delta])

section

variable (h : Spells chunks tail deltas)
include h

lemma Spells.mono (more : List TextChunk) :
    Spells (chunks ++ more) tail deltas := by
  induction h with
  | nil => exact .nil
  | snoc hchunk hprevious hspells ih =>
    obtain ⟨hlt, -⟩ := List.getElem?_eq_some_iff.mp hchunk
    exact .snoc (by rw [List.getElem?_append_left hlt, hchunk]) hprevious ih

lemma Spells.tail_lt : ∀ place ∈ tail, place < chunks.length := by
  intro place hplace
  cases h with
  | nil => cases hplace
  | snoc hchunk =>
    obtain rfl := Option.some_inj.mp hplace
    exact (List.getElem?_eq_some_iff.mp hchunk).1

lemma Spells.ne_nil (htail : tail.isSome = true) : deltas ≠ [] := by
  cases h with
  | nil => cases htail
  | snoc => exact List.append_ne_nil_of_right_ne_nil _ (List.cons_ne_nil _ _)

lemma Spells.length_le {bound : ℕ}
    (hbound : ∀ place ∈ tail, place < bound) : deltas.length ≤ bound := by
  induction h generalizing bound with
  | nil => exact Nat.zero_le _
  | snoc hchunk hprevious hspells ih =>
    have hlength := ih hprevious
    have hplace := hbound _ rfl
    rw [List.length_append, List.length_singleton]
    omega

lemma Spells.collect (deque : List JavaString)
    (hsteps : deltas.length ≤ steps) :
    TextAccumulator.collect chunks steps tail deque = some (deltas ++ deque) := by
  induction h generalizing steps deque with
  | nil => rw [TextAccumulator.collect, List.nil_append]
  | snoc hchunk hprevious hspells ih =>
    rw [List.length_append, List.length_singleton] at hsteps
    obtain ⟨steps, rfl⟩ : ∃ n, steps = n + 1 := ⟨steps - 1, by omega⟩
    rw [TextAccumulator.collect, hchunk]
    dsimp only
    rw [ih _ (by omega), List.append_assoc, List.singleton_append]

end

lemma Spells.materialize {acc : TextAccumulator} (h : Spells chunks acc.tail deltas) :
    acc.materialize chunks = some (Story.text ⟨acc.base, deltas⟩) := by
  have hcollect := h.collect [] (h.length_le h.tail_lt)
  rw [TextAccumulator.materialize, Story.text]
  cases htail : acc.tail with
  | none =>
    rw [htail] at h
    cases h
    rw [if_pos (by rfl)]
    cases acc.base with
    | none => rfl
    | some base => simp
  | some place =>
    have hne := h.ne_nil (by rw [htail]; rfl)
    rw [htail] at hcollect
    rw [if_neg (by simp), hcollect, if_neg fun hnone => hne hnone.2, List.append_nil]
    rfl

end Chains

/-! ## What a snapshot tells -/

section Telling

variable {chunks : List TextChunk} {acc : TextAccumulator} {item item' : ItemState}
  {story : Story} {delta : JavaString} {deltas : List JavaString} {base : Option JavaString}

lemma text_snoc : Story.text ⟨base, deltas ++ [delta]⟩ =
    some ((Story.text ⟨base, deltas⟩).getD [] ++ delta) := by
  have hne : ¬(base = none ∧ deltas ++ [delta] = []) := fun h =>
    List.append_ne_nil_of_right_ne_nil _ (List.cons_ne_nil _ _) h.2
  rw [Story.text, if_neg hne]
  by_cases hnone : base = none ∧ deltas = []
  · obtain ⟨rfl, rfl⟩ := hnone
    simp [Story.text]
  · rw [Story.text, if_neg hnone]
    simp

lemma text_ne_none (h : base.isSome = true ∨ deltas ≠ []) :
    ∃ text, Story.text ⟨base, deltas⟩ = some text := by
  refine ⟨_, if_neg ?_⟩
  rintro ⟨rfl, hdeltas⟩
  rcases h with h | h
  · cases h
  · exact h hdeltas

/-- The text of a snapshot is the one of its history. -/
structure Tells (chunks : List TextChunk) (item : ItemState) (story : Story) : Prop where
  spells : ∃ deltas, Spells chunks item.textAccumulator.tail deltas ∧
    Story.text ⟨item.textAccumulator.base, deltas⟩ = story.text
  cached : item.textMaterialized = true → item.materializedText = story.text
  paired : wellFormed (story.text.getD []) = true
  bytes : item.textBytes = (getBytes (story.text.getD [])).length
  bytesLe : item.textBytes ≤ maxTextBytes

lemma Tells.mono (h : Tells chunks item story) (more : List TextChunk) :
    Tells (chunks ++ more) item story := by
  obtain ⟨deltas, hspells, htext⟩ := h.spells
  exact ⟨⟨deltas, hspells.mono more, htext⟩, h.cached, h.paired, h.bytes, h.bytesLe⟩

lemma Tells.materialize (h : Tells chunks item story) :
    item.textAccumulator.materialize chunks = some story.text := by
  obtain ⟨deltas, hspells, htext⟩ := h.spells
  rw [hspells.materialize, htext]

lemma tells_new {itemId turnId title text : Option JavaString} {kind : Option ItemKind}
    {status : Option ItemStatus}
    (h : ItemState.new itemId turnId kind status title text = .ok item) :
    Tells chunks item ⟨text, []⟩ ∧ item.status ∈ status := by
  simp only [ItemState.new, bind_eq_ok, reject_eq_ok, decide_eq_false_iff_not, exists_unit] at h
  obtain ⟨_, -, _, -, _, -, status', hstatus, -, -, n, hn, hle, hitem⟩ := h
  obtain rfl := Except.ok.inj hitem
  obtain ⟨hpaired, rfl⟩ := utf8Bytes_eq_ok.mp hn
  have htext : Story.text ⟨text, []⟩ = text := by
    cases text with
    | none => rfl
    | some text => simp [Story.text]
  refine ⟨⟨⟨[], .nil, rfl⟩, fun h => (by cases h), ?_, ?_, Int.not_lt.mp hle⟩, ?_⟩
  · rw [htext]
    exact hpaired
  · rw [htext]
  · cases status with
    | none => cases hstatus
    | some status => exact congrArg some (Except.ok.inj hstatus)

lemma spells_append (delta : JavaString) (hspells : Spells chunks acc.tail deltas) :
    ∃ more deltas', (acc.append chunks delta).2 = chunks ++ more ∧
      Spells (chunks ++ more) (acc.append chunks delta).1.tail deltas' ∧
      Story.text ⟨(acc.append chunks delta).1.base, deltas'⟩ =
        some ((Story.text ⟨acc.base, deltas⟩).getD [] ++ delta) := by
  rw [TextAccumulator.append]
  by_cases hempty : (delta.isEmpty && (acc.base.isSome || acc.tail.isSome)) = true
  · -- an empty delta is left out, as there is a text already
    obtain ⟨hnil, hsome⟩ := Bool.and_eq_true_iff.mp hempty
    rw [if_pos hempty]
    have hthere : acc.base.isSome = true ∨ deltas ≠ [] := by
      rcases Bool.or_eq_true_iff.mp hsome with hbase | htail
      · exact .inl hbase
      · refine .inr ?_
        rintro rfl
        cases hacc : acc.tail with
        | none =>
          rw [hacc] at htail
          cases htail
        | some place =>
          rw [hacc] at hspells
          generalize hd : ([] : List JavaString) = nothing at hspells
          cases hspells with
          | snoc =>
            exact List.append_ne_nil_of_right_ne_nil _ (List.cons_ne_nil _ _) hd.symm
    obtain ⟨text, htext⟩ := text_ne_none hthere
    refine ⟨[], deltas, by simp, by simpa using hspells, ?_⟩
    rw [htext, List.isEmpty_iff.mp hnil, Option.getD_some, List.append_nil]
  · rw [if_neg hempty]
    refine ⟨[⟨acc.tail, delta⟩], deltas ++ [delta], rfl, ?_, text_snoc⟩
    exact .snoc List.getElem?_concat_length hspells.tail_lt (hspells.mono _)

end Telling

/-! ## All calls -/

/-- Every snapshot tells its history. -/
structure World.Sound (world : World) : Prop where
  length : world.stories.length = world.heap.items.length
  tells : ∀ (place : ℕ) (item : ItemState) (story : Story), world.heap.items[place]? = some item →
    world.stories[place]? = some story → Tells world.heap.chunks item story

/-- What `text()` returns for a snapshot. -/
def World.textOf (world : World) (place : ℕ) : Option (Option JavaString) :=
  (world.heap.items[place]?.bind fun item => world.heap.text place item).map (·.2)

/-- The snapshot that a call would change. -/
def Call.receiver : Call → Option ℕ
  | .construct .. => none
  | .appendDelta item _ _ _ => some item
  | .transition item _ _ => some item
  | .text _ => none

namespace World

variable {world world' : World} {call : Call} {result : Except Fault Returned} {place : ℕ}
  {item : ItemState} {story : Story}

lemma sound_empty : empty.Sound :=
  ⟨rfl, fun _ _ _ h => (by cases h)⟩

lemma Sound.exists_story (h : world.Sound) (hitem : world.heap.items[place]? = some item) :
    ∃ story, world.stories[place]? = some story ∧ Tells world.heap.chunks item story := by
  obtain ⟨hlt, -⟩ := List.getElem?_eq_some_iff.mp hitem
  have hstory := List.getElem?_eq_getElem (h.length.symm ▸ hlt : place < world.stories.length)
  exact ⟨_, hstory, h.tells place item _ hitem hstory⟩

lemma Sound.textOf_eq (h : world.Sound) (hitem : world.heap.items[place]? = some item)
    (hstory : world.stories[place]? = some story) : world.textOf place = some story.text := by
  have htells := h.tells place item story hitem hstory
  rw [textOf, hitem, Option.bind_some, Heap.text]
  split_ifs with hcached
  · rw [Option.map_some, htells.cached hcached]
  · rw [htells.materialize]
    rfl

lemma Sound.add (h : world.Sound) (more : List TextChunk)
    (htells : Tells (world.heap.chunks ++ more) item story) :
    Sound ⟨⟨world.heap.chunks ++ more, world.heap.items ++ [item]⟩, world.stories ++ [story]⟩ := by
  constructor
  · rw [List.length_append, List.length_append, h.length]
    rfl
  · intro place item' story' hitem hstory
    rcases Nat.lt_or_ge place world.heap.items.length with hlt | hge
    · rw [List.getElem?_append_left hlt] at hitem
      rw [List.getElem?_append_left (h.length.symm ▸ hlt)] at hstory
      exact (h.tells place item' story' hitem hstory).mono more
    · rw [List.getElem?_append_right hge] at hitem
      rw [List.getElem?_append_right (h.length.symm ▸ hge), h.length] at hstory
      rw [List.getElem?_singleton] at hitem hstory
      split_ifs at hitem hstory
      obtain rfl := Option.some_inj.mp hitem
      obtain rfl := Option.some_inj.mp hstory
      exact htells

/-- What a call does: it is refused, or makes a snapshot, or tells a text. -/
inductive Effect (world : World) (call : Call) : Except Fault Returned → World → Prop
  | refused (fault : Fault) : Effect world call (.error fault) world
  | made (more : List TextChunk) (item : ItemState) :
      (∀ (place : ℕ) (receiver : ItemState), call.receiver = some place →
        world.heap.items[place]? = some receiver → receiver.status.terminal = false) →
      Tells (world.heap.chunks ++ more) item (world.story call) →
      Effect world call (.ok (.item world.heap.items.length))
        ⟨⟨world.heap.chunks ++ more, world.heap.items ++ [item]⟩,
          world.stories ++ [world.story call]⟩
  | told (place : ℕ) (item : ItemState) (story : Story) :
      call.receiver = none → world.heap.items[place]? = some item →
      world.stories[place]? = some story →
      Effect world call (.ok (.text story.text))
        ⟨⟨world.heap.chunks, world.heap.items.set place
          { item with textMaterialized := true, materializedText := story.text }⟩, world.stories⟩

lemma step_eq {heap : Heap} (h : world.Step (call, result) world')
    (hperform : world.heap.perform call = some (heap, result)) :
    world' = ⟨heap, world.storiesAfter call result⟩ := by
  obtain ⟨hstep, hstories⟩ := h
  rw [hperform, Option.some_inj, Prod.mk.injEq] at hstep
  cases world' with
  | mk heap' stories' =>
    obtain rfl := hstep.1
    obtain rfl := hstories
    rfl

lemma effect_add (made : Except Fault ItemState) (more : List TextChunk)
    (h : world.Step (call, result) world')
    (hperform : world.heap.perform call =
      some (Heap.add ⟨world.heap.chunks ++ more, world.heap.items⟩ made))
    (hreceiver : ∀ (place : ℕ) (receiver : ItemState), call.receiver = some place →
      world.heap.items[place]? = some receiver → receiver.status.terminal = false ∨
        ∃ fault, made = .error fault)
    (hmore : more = [] ∨ ∃ item, made = .ok item)
    (htells : ∀ item, made = .ok item → Tells (world.heap.chunks ++ more) item (world.story call)) :
    Effect world call result world' := by
  cases hmade : made with
  | error fault =>
    obtain rfl := hmore.resolve_right (by rw [hmade]; rintro ⟨item, hitem⟩; cases hitem)
    rw [hmade, List.append_nil] at hperform
    obtain rfl : result = .error fault := by
      have hstep := h.1
      rw [hperform, Option.some_inj] at hstep
      exact (congrArg Prod.snd hstep).symm
    obtain rfl := step_eq h hperform
    exact .refused fault
  | ok item =>
    rw [hmade] at hperform
    obtain rfl : result = .ok (.item world.heap.items.length) := by
      have hstep := h.1
      rw [hperform, Option.some_inj] at hstep
      exact (congrArg Prod.snd hstep).symm
    obtain rfl := step_eq h hperform
    refine .made more item ?_ (htells item hmade)
    intro place receiver hplace hitem
    rcases hreceiver place receiver hplace hitem with hterminal | ⟨fault, hfault⟩
    · exact hterminal
    · rw [hmade] at hfault
      cases hfault

variable {delta : Option JavaString} {maxDelta maxText : ℤ}

lemma checkDelta_eq_ok {deltaBytes : ℤ} {text : JavaString}
    (h : item.checkDelta delta maxDelta maxText = .ok (text, deltaBytes)) :
    delta = some text ∧ item.status.terminal = false ∧ wellFormed text = true ∧
      deltaBytes = (getBytes text).length ∧ item.textBytes + deltaBytes ≤ maxTextBytes := by
  simp only [ItemState.checkDelta, validateBudget, bind_eq_ok, reject_eq_ok,
    Bool.or_eq_false_iff, decide_eq_false_iff_not, exists_unit] at h
  obtain ⟨text', htext, ⟨-, hmax⟩, hterminal, n, hn, ⟨-, hroom⟩, hpair⟩ := h
  obtain ⟨rfl, rfl⟩ := Prod.mk.inj (Except.ok.inj hpair)
  obtain ⟨hpaired, rfl⟩ := utf8Bytes_eq_ok.mp hn
  refine ⟨?_, hterminal, hpaired, rfl, by omega⟩
  cases delta with
  | none => cases htext
  | some delta => exact congrArg some (Except.ok.inj htext)

lemma story_appendDelta (hstory : world.stories[place]? = some story) :
    world.story (.appendDelta place delta maxDelta maxText) =
      ⟨story.base, story.deltas ++ [delta.getD []]⟩ := by
  rw [World.story, List.getD_eq_getElem?_getD, hstory]
  rfl

lemma transition_terminal (item : ItemState) (next : Option ItemStatus)
    (nextText : Option JavaString) :
    item.status.terminal = false ∨ ∃ fault, item.transition next nextText = .error fault := by
  cases hterminal : item.status.terminal with
  | false => exact .inl rfl
  | true =>
    refine .inr ?_
    cases next with
    | none => exact ⟨_, rfl⟩
    | some next =>
      refine ⟨.protocol .invalidState, ?_⟩
      rw [ItemState.transition, transitions_of_terminal hterminal]
      rfl

lemma new_of_transition {item' : ItemState} {next : Option ItemStatus}
    {nextText : Option JavaString} (h : item.transition next nextText = .ok item') :
    ∃ next', ItemState.new (some item.itemId) (some item.turnId) (some item.kind) (some next')
      item.title nextText = .ok item' := by
  simp only [ItemState.transition, bind_eq_ok, reject_eq_ok, exists_unit] at h
  obtain ⟨next', -, -, hnew⟩ := h
  exact ⟨next', hnew⟩

lemma Sound.appended (h : world.Sound)
    (hstep : world.Step (.appendDelta place delta maxDelta maxText, result) world')
    (hitem : world.heap.items[place]? = some item) :
    Effect world (.appendDelta place delta maxDelta maxText) result world' := by
  have hperform : world.heap.perform (.appendDelta place delta maxDelta maxText) =
      some (world.heap.appendDelta item delta maxDelta maxText) := by
    rw [Heap.perform, hitem]
    rfl
  rw [Heap.appendDelta] at hperform
  cases hcheck : item.checkDelta delta maxDelta maxText with
  | error fault =>
    rw [hcheck] at hperform
    have hresult := hstep.1.symm.trans hperform
    obtain ⟨-, rfl⟩ := Prod.mk.inj (Option.some_inj.mp hresult)
    obtain rfl := step_eq hstep hperform
    exact .refused fault
  | ok checked =>
    obtain ⟨text, deltaBytes⟩ := checked
    obtain ⟨rfl, hterminal, hpaired, rfl, hroom⟩ := checkDelta_eq_ok hcheck
    obtain ⟨story, hstory, htells⟩ := h.exists_story hitem
    obtain ⟨deltas, hspells, hbefore⟩ := htells.spells
    obtain ⟨more, deltas', hchunks, hafter, htext⟩ := spells_append text hspells
    rw [hbefore] at htext
    have hbytes := htells.bytes
    have hnext : item.next (item.textAccumulator.append world.heap.chunks text).1
        (item.textBytes + (getBytes text).length) =
          .ok ⟨item.itemId, item.turnId, item.kind, item.status, item.title,
            (item.textAccumulator.append world.heap.chunks text).1,
            item.textBytes + (getBytes text).length, false, none⟩ := by
      rw [ItemState.next, decide_eq_false (by omega), decide_eq_false (by omega)]
      rfl
    rw [hcheck] at hperform
    dsimp only at hperform
    rw [hchunks, hnext] at hperform
    refine effect_add _ more hstep hperform ?_ (.inr ⟨_, rfl⟩) ?_
    · intro place' receiver hplace hreceiver
      obtain rfl := Option.some_inj.mp hplace
      rw [hitem] at hreceiver
      obtain rfl := Option.some_inj.mp hreceiver
      exact .inl hterminal
    · rintro item' hitem'
      obtain rfl := Except.ok.inj hitem'
      have hnew : Story.text (world.story (.appendDelta place (some text) maxDelta maxText)) =
          some (story.text.getD [] ++ text) := by
        rw [story_appendDelta hstory]
        exact text_snoc
      refine ⟨⟨deltas', hafter, by rw [htext, hnew]⟩, fun h => (by cases h), ?_, ?_, hroom⟩
      · rw [hnew]
        exact wellFormed_append htells.paired hpaired
      · rw [hnew, Option.getD_some, getBytes_append hpaired, List.length_append]
        push_cast
        rw [← hbytes]

/-- **What a call does** to snapshots that tell their histories. -/
lemma Sound.effect (h : world.Sound) (hstep : world.Step (call, result) world') :
    Effect world call result world' := by
  cases call with
  | construct itemId turnId kind status title text =>
    refine effect_add _ [] hstep (by rw [List.append_nil]; rfl) ?_ (.inl rfl) ?_
    · intro place receiver hplace
      cases hplace
    · intro item hitem
      exact (tells_new hitem).1
  | appendDelta place delta maxDelta maxText =>
    cases hitem : world.heap.items[place]? with
    | none =>
      have hperform := hstep.1
      rw [Heap.perform, hitem] at hperform
      cases hperform
    | some item => exact h.appended hstep hitem
  | transition place next nextText =>
    cases hitem : world.heap.items[place]? with
    | none =>
      have hperform := hstep.1
      rw [Heap.perform, hitem] at hperform
      cases hperform
    | some item =>
      refine effect_add (item.transition next nextText) [] hstep
        (by rw [List.append_nil, Heap.perform, hitem]; rfl) ?_ (.inl rfl) ?_
      · intro place' receiver hplace hreceiver
        obtain rfl := Option.some_inj.mp hplace
        rw [hitem] at hreceiver
        obtain rfl := Option.some_inj.mp hreceiver
        exact transition_terminal item next nextText
      · intro item' hitem'
        obtain ⟨next', htransition⟩ := new_of_transition hitem'
        exact (tells_new htransition).1
  | text place =>
    cases hitem : world.heap.items[place]? with
    | none =>
      have hperform := hstep.1
      rw [Heap.perform, hitem] at hperform
      cases hperform
    | some item =>
      obtain ⟨story, hstory, htells⟩ := h.exists_story hitem
      have htext : world.heap.text place item =
          some (⟨world.heap.chunks, world.heap.items.set place
              { item with textMaterialized := true, materializedText := story.text }⟩,
            story.text) := by
        rw [Heap.text]
        split_ifs with hcached
        · -- the text is there already, and nothing changes
          have hkept : ({ item with textMaterialized := true, materializedText := story.text } :
              ItemState) = item := by
            rw [← htells.cached hcached, ← hcached]
          obtain ⟨hlt, hget⟩ := List.getElem?_eq_some_iff.mp hitem
          rw [hkept, htells.cached hcached, ← hget, List.set_getElem_self]
        · rw [htells.materialize]
          rfl
      have hperform : world.heap.perform (.text place) = some (⟨world.heap.chunks,
          world.heap.items.set place
            { item with textMaterialized := true, materializedText := story.text }⟩,
          .ok (.text story.text)) := by
        rw [Heap.perform, hitem, Option.bind_some, htext]
        rfl
      have hresult := hstep.1.symm.trans hperform
      obtain ⟨-, rfl⟩ := Prod.mk.inj (Option.some_inj.mp hresult)
      obtain rfl := step_eq hstep hperform
      exact .told place item story rfl hitem hstory

lemma Sound.after (h : world.Sound) (heffect : Effect world call result world') : world'.Sound := by
  cases heffect with
  | refused fault => exact h
  | made more item hterminal htells => exact h.add more htells
  | told place item story hcall hitem hstory =>
    refine ⟨by rw [List.length_set]; exact h.length, ?_⟩
    intro place' item' story' hitem' hstory'
    rcases eq_or_ne place place' with rfl | hne
    · have hlt := (List.getElem?_eq_some_iff.mp hitem).1
      rw [List.getElem?_set_self hlt] at hitem'
      obtain rfl := Option.some_inj.mp hitem'
      have htells := h.tells place item story' hitem hstory'
      rw [hstory] at hstory'
      obtain rfl := Option.some_inj.mp hstory'
      exact ⟨htells.spells, fun _ => rfl, htells.paired, htells.bytes, htells.bytesLe⟩
    · rw [List.getElem?_set_ne hne] at hitem'
      exact h.tells place' item' story' hitem' hstory'

lemma Effect.stories (h : Effect world call result world') (hsound : world.Sound)
    (hlt : place < world.heap.items.length) :
    world'.stories[place]? = world.stories[place]? ∧ place < world'.heap.items.length := by
  cases h with
  | refused fault => exact ⟨rfl, hlt⟩
  | made more item =>
    refine ⟨List.getElem?_append_left (hsound.length.symm ▸ hlt), ?_⟩
    show place < (world.heap.items ++ [item]).length
    rw [List.length_append]
    omega
  | told place' item story =>
    refine ⟨rfl, ?_⟩
    show place < (world.heap.items.set place' _).length
    rw [List.length_set]
    exact hlt

lemma Sound.textOf_of_lt (h : world.Sound) (hlt : place < world.heap.items.length) :
    world.textOf place = world.stories[place]?.map Story.text := by
  have hitem := List.getElem?_eq_getElem hlt
  obtain ⟨story, hstory, -⟩ := h.exists_story hitem
  rw [h.textOf_eq hitem hstory, hstory]
  rfl

/-- **No call changes the text of a snapshot**, not of one that shares its chunks either. -/
lemma Sound.textOf_after (h : world.Sound) (heffect : Effect world call result world')
    (hlt : place < world.heap.items.length) : world'.textOf place = world.textOf place := by
  obtain ⟨hstories, hlt'⟩ := heffect.stories h hlt
  rw [(h.after heffect).textOf_of_lt hlt', h.textOf_of_lt hlt, hstories]

lemma sound_of_run {events : List (Call × Except Fault Returned)}
    (h : Run Step empty events world) : world.Sound :=
  h.stateInvariant sound_empty fun hsound hstep => hsound.after (hsound.effect hstep)

end World

/-- **The texts of items**: in every run, the text of a snapshot is the base and the deltas of its
history, its bytes are counted and no more than a mebibyte; a call that is refused changes nothing,
a call on an item that has ended is refused, and no call changes the text of a snapshot there is. -/
theorem texts_of_items {events : List (Call × Except Fault Returned)} {world : World}
    (h : Run World.Step .empty events world) :
    world.stories.length = world.heap.items.length ∧
      (∀ (place : ℕ) (item : ItemState) (story : Story), world.heap.items[place]? = some item →
        world.stories[place]? = some story →
        world.textOf place = some story.text ∧
          item.textBytes = (getBytes (story.text.getD [])).length ∧
          item.textBytes ≤ 1048576) ∧
      ∀ call result world', world.Step (call, result) world' →
        (∀ place < world.heap.items.length, world'.textOf place = world.textOf place) ∧
          (∀ fault, result = .error fault → world' = world) ∧
          ∀ (place : ℕ) (item : ItemState), call.receiver = some place →
            world.heap.items[place]? = some item → item.status.terminal = true →
            ∃ fault, result = .error fault := by
  have hsound := World.sound_of_run h
  refine ⟨hsound.length, ?_, ?_⟩
  · intro place item story hitem hstory
    have htells := hsound.tells place item story hitem hstory
    exact ⟨hsound.textOf_eq hitem hstory, htells.bytes, htells.bytesLe⟩
  · intro call result world' hstep
    have heffect := hsound.effect hstep
    refine ⟨fun place hlt => hsound.textOf_after heffect hlt, ?_, ?_⟩
    · rintro fault rfl
      cases heffect
      rfl
    · intro place item hreceiver hitem hterminal
      cases heffect with
      | refused fault => exact ⟨fault, rfl⟩
      | made more new hopen =>
        rw [hopen place item hreceiver hitem] at hterminal
        cases hterminal
      | told place' item' story hcall =>
        rw [hcall] at hreceiver
        cases hreceiver

/-! ## A run -/

/-- A snapshot with an identifier of one letter. -/
def sampleItem (status : ItemStatus) (acc : TextAccumulator) (textBytes : ℤ) : ItemState :=
  ⟨[0x69], [0x74], .agentMessage, status, none, acc, textBytes, false, none⟩

/-- An item is started. -/
def startedWorld : World :=
  ⟨⟨[], [sampleItem .started ⟨none, none, 0⟩ 0]⟩, [⟨none, []⟩]⟩

/-- A letter is appended to it. -/
def appendedWorld : World :=
  ⟨⟨[⟨none, [0x61]⟩],
      [sampleItem .started ⟨none, none, 0⟩ 0, sampleItem .started ⟨none, some 0, 1⟩ 1]⟩,
    [⟨none, []⟩, ⟨none, [[0x61]]⟩]⟩

/-- The item is completed with no text. -/
def completedWorld : World :=
  ⟨⟨[⟨none, [0x61]⟩],
      [sampleItem .started ⟨none, none, 0⟩ 0, sampleItem .started ⟨none, some 0, 1⟩ 1,
        sampleItem .completed ⟨none, none, 0⟩ 0]⟩,
    [⟨none, []⟩, ⟨none, [[0x61]]⟩, ⟨none, []⟩]⟩

/-- The calls of the run. -/
def sampleEvents : List (Call × Except Fault Returned) :=
  [(.started (some [0x69]) (some [0x74]) (some .agentMessage) none, .ok (.item 0)),
    (.appendDefault 0 (some [0x61]), .ok (.item 1)),
    (.transition 1 (some .completed) none, .ok (.item 2))]

lemma run_completedWorld : Run World.Step .empty sampleEvents completedWorld := by
  have hstarted : Run World.Step .empty (sampleEvents.take 1) startedWorld :=
    Run.nil.snoc ⟨by decide, by decide⟩
  have happended : Run World.Step .empty (sampleEvents.take 2) appendedWorld :=
    hstarted.snoc ⟨by decide, by decide⟩
  exact happended.snoc ⟨by decide, by decide⟩

/-- A delta was appended, and the text is null: the transition has set it. -/
theorem text_null_after_append :
    ∃ events world, Run World.Step .empty events world ∧
      (Call.appendDefault 0 (some [0x61]), Except.ok (Returned.item 1)) ∈ events ∧
      world.textOf 2 = some none :=
  ⟨sampleEvents, completedWorld, run_completedWorld, by decide, by decide⟩

/-- The text of the snapshot that the letter was appended to stays. -/
theorem texts_of_items_completed : completedWorld.textOf 1 = some (some [0x61]) :=
  ((texts_of_items run_completedWorld).2.1 1 _ _ rfl rfl).1

end JaDesktop.Sidecar.Items
