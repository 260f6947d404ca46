import JaDesktop.Persistence.HistorySteps

/-!
# Sequences and items of the history

The sequence of a thread is a counter in its row.  `Sequenced` is what every call keeps: each item
of a thread was first stored under a number of its own, between one and the counter.
-/

namespace JaDesktop.Persistence

open Sidecar (JsonNode ObjectNode TurnEvent java)

variable {P : Type} {platform : Platform P} {db db' : Database P} {threadId : JavaString}
  {call : StoreCall} {reply : Reply}

/-- The counter of a thread; it is zero where there is no row. -/
def Database.lastSeqOf (db : Database P) (threadId : JavaString) : ℕ :=
  (db.thread threadId).elim 0 ThreadSnapshot.lastSeq

/-- The rows are keyed, and items have numbers of their own. -/
structure Sequenced (db : Database P) : Prop where
  threads : Table.Keyed ThreadSnapshot.threadId db.threads
  items : Table.Keyed ItemRow.key db.items
  bounds : ∀ row ∈ db.items, 1 ≤ row.firstSeq ∧ row.firstSeq ≤ row.lastSeq ∧
    row.lastSeq ≤ db.lastSeqOf row.threadId
  distinct : ∀ row ∈ db.items, ∀ other ∈ db.items, row.threadId = other.threadId →
    row.firstSeq = other.firstSeq → row.itemId = other.itemId

lemma sequenced_fresh (workspaces : List WorkspaceSnapshot) :
    Sequenced (Database.fresh workspaces : Database P) := by
  constructor
  case threads => exact List.nodup_nil
  case items => exact List.nodup_nil
  case bounds => simp [Database.fresh]
  case distinct => simp [Database.fresh]

/-! ## One step -/

variable {thread : ThreadSnapshot} {seq : ℕ} {status : ThreadStatus} {active : Option JavaString}

lemma lastSeqOf_addThread (hnew : db.thread thread.threadId = none) (hzero : thread.lastSeq = 0)
    (id : JavaString) :
    (db.addThread thread).lastSeqOf id = db.lastSeqOf id := by
  unfold Database.lastSeqOf
  rw [thread_addThread hnew]
  split_ifs with hid
  · rw [hid, hnew]
    exact hzero
  · rfl

lemma lastSeqOf_recover (id : JavaString) : db.recover.lastSeqOf id = db.lastSeqOf id := by
  unfold Database.lastSeqOf
  rw [thread_recover]
  cases db.thread id with
  | none => rfl
  | some thread =>
    simp only [Option.map_some, Option.elim_some]
    split_ifs <;> rfl

lemma lastSeqOf_advance (hthread : db.thread threadId = some thread) {row : Option (ItemRow P)}
    (id : JavaString) : (db.advance threadId row seq status active).lastSeqOf id =
      if id = threadId then seq else db.lastSeqOf id := by
  unfold Database.lastSeqOf
  rw [thread_advance]
  split_ifs with hid
  · rw [hid, hthread]
    rfl
  · cases db.thread id <;> rfl

/-- A row of the items after a step is an old row, or the row of the next number: a new one, or the
new version of an old one. -/
lemma mem_items_advance {row : Option (ItemRow P)} {r : ItemRow P}
    (hmem : r ∈ (db.advance threadId row seq status active).items) :
    r ∈ db.items ∨ ∃ new ∈ row,
      (r = new ∧ db.item new.threadId new.itemId = none) ∨
        ∃ old ∈ db.items, old.key = new.key ∧ r = { new with
          threadId := old.threadId, itemId := old.itemId, firstSeq := old.firstSeq } := by
  rw [items_advance] at hmem
  cases row with
  | none => exact Or.inl hmem
  | some new =>
    rcases Table.mem_upsert hmem with ⟨hold, -⟩ | ⟨hnew, hnone⟩ | hold
    · exact Or.inl hold
    · exact Or.inr ⟨new, rfl, Or.inl ⟨hnew, hnone⟩⟩
    · exact Or.inr ⟨new, rfl, Or.inr hold⟩

lemma Sequenced.advance (h : Sequenced db) (hthread : db.thread threadId = some thread)
    {row : Option (ItemRow P)} (hrow : ∀ r ∈ row, r.threadId = threadId ∧
      r.firstSeq = thread.lastSeq + 1 ∧ r.lastSeq = thread.lastSeq + 1) :
    Sequenced (db.advance threadId row (thread.lastSeq + 1) status active) := by
  have hlast : db.lastSeqOf threadId = thread.lastSeq := by
    rw [Database.lastSeqOf, hthread]
    rfl
  -- The counters do not fall.
  have hgrows : ∀ id, db.lastSeqOf id ≤
      (db.advance threadId row (thread.lastSeq + 1) status active).lastSeqOf id := by
    intro id
    rw [lastSeqOf_advance hthread]
    split_ifs with hid
    · rw [hid, hlast]
      exact Nat.le_succ _
    · exact le_rfl
  have hfirst : ∀ r ∈ db.items, r.threadId = threadId → r.firstSeq ≤ thread.lastSeq := by
    intro r hr hid
    obtain ⟨-, hle, hle'⟩ := h.bounds r hr
    rw [hid, hlast] at hle'
    exact hle.trans hle'
  have hcases := @mem_items_advance P db threadId (thread.lastSeq + 1) status active row
  constructor
  case threads =>
    rw [threads_advance]
    exact h.threads.update fun _ => rfl
  case items =>
    rw [items_advance]
    cases row with
    | none => exact h.items
    | some new => exact h.items.upsert fun _ => rfl
  case bounds =>
    intro r hr
    rcases hcases hr with hold | ⟨new, hnew, ⟨rfl, -⟩ | ⟨old, hold, hkey, rfl⟩⟩
    · obtain ⟨hpos, hle, hle'⟩ := h.bounds r hold
      exact ⟨hpos, hle, hle'.trans (hgrows _)⟩
    · obtain ⟨hid, hf, hl⟩ := hrow r hnew
      rw [lastSeqOf_advance hthread, if_pos hid, hf, hl]
      exact ⟨Nat.succ_pos _, le_rfl, le_rfl⟩
    · obtain ⟨hid, -, hl⟩ := hrow new hnew
      obtain ⟨hpos, -, -⟩ := h.bounds old hold
      have hidOld : old.threadId = threadId := (congrArg Prod.fst hkey).trans hid
      rw [lastSeqOf_advance hthread, if_pos hidOld]
      exact ⟨hpos, hl ▸ (hfirst old hold hidOld).trans (Nat.le_succ _), hl ▸ le_rfl⟩
  case distinct =>
    -- An old first number is at most the old counter, and a new row has the next number.
    have hnumber : ∀ r ∈ (db.advance threadId row (thread.lastSeq + 1) status active).items,
        (∃ old ∈ db.items, old.key = r.key ∧ old.firstSeq = r.firstSeq) ∨
          ∃ new ∈ row, r = new := by
      intro r hr
      rcases hcases hr with hold | ⟨new, hnew, ⟨rfl, -⟩ | ⟨old, hold, hkey, rfl⟩⟩
      · exact Or.inl ⟨r, hold, rfl, rfl⟩
      · exact Or.inr ⟨r, hnew, rfl⟩
      · exact Or.inl ⟨old, hold, rfl, rfl⟩
    intro r hr other hother hthreads hseqs
    rcases hnumber r hr with ⟨old, hold, hkey, hseq⟩ | ⟨new, hnew, rfl⟩
    · rcases hnumber other hother with ⟨old', hold', hkey', hseq'⟩ | ⟨new', hnew', rfl⟩
      · have hid := congrArg Prod.fst hkey
        have hid' := congrArg Prod.fst hkey'
        have hsame := h.distinct old hold old' hold' (hid.trans (hthreads.trans hid'.symm))
          (hseq.trans (hseqs.trans hseq'.symm))
        exact (congrArg Prod.snd hkey).symm.trans (hsame.trans (congrArg Prod.snd hkey'))
      · obtain ⟨hid, hf, -⟩ := hrow other hnew'
        have hle := hfirst old hold ((congrArg Prod.fst hkey).trans (hthreads.trans hid))
        rw [hseq, hseqs, hf] at hle
        exact absurd hle (Nat.not_succ_le_self _)
    · rcases hnumber other hother with ⟨old', hold', hkey', hseq'⟩ | ⟨new', hnew', rfl⟩
      · obtain ⟨hid, hf, -⟩ := hrow r hnew
        have hle := hfirst old' hold' ((congrArg Prod.fst hkey').trans (hthreads.symm.trans hid))
        rw [hseq', ← hseqs, hf] at hle
        exact absurd hle (Nat.not_succ_le_self _)
      · rw [Option.some.inj (hnew.symm.trans hnew')]

lemma RowOf.numbers {item : ObjectNode} {row : ItemRow P} (h : RowOf platform threadId item seq row) :
    row.threadId = threadId ∧ row.firstSeq = seq ∧ row.lastSeq = seq :=
  ⟨h.threadId, h.firstSeq, h.lastSeq⟩

/-- **A successful call keeps the numbers.** -/
theorem Sequenced.effect (h : Sequenced db) (heffect : Effect platform db call reply db') :
    Sequenced db' := by
  cases heffect with
  | @created threadId workspaceId title call hcall hnew reply =>
    have hlast : ∀ id, (db.addThread (newThread threadId workspaceId title)).lastSeqOf id =
        db.lastSeqOf id := lastSeqOf_addThread hnew rfl
    constructor
    case threads => exact h.threads.append_singleton hnew
    case items => exact h.items
    case bounds =>
      intro row hrow
      obtain ⟨hpos, hle, hle'⟩ := h.bounds row hrow
      exact ⟨hpos, hle, (hlast row.threadId).symm ▸ hle'⟩
    case distinct => exact h.distinct
  | existing => exact h
  | recorded hthread hmax hnew hrow =>
    refine h.advance hthread fun r hr => ?_
    obtain rfl := Option.some.inj hr
    exact hrow.numbers
  | repeated => exact h
  | appended hid hthread hmax hrow =>
    refine h.advance hthread fun r hr => ?_
    obtain ⟨item, -, hitem⟩ := hrow r hr
    exact hitem.numbers
  | recovered =>
    constructor
    case threads =>
      refine h.threads.map fun thread => ?_
      split_ifs <;> rfl
    case items => exact h.items
    case bounds =>
      intro row hrow
      rw [lastSeqOf_recover]
      exact h.bounds row hrow
    case distinct => exact h.distinct

/-! ## The numbers that calls return -/

/-- The number in a reply. -/
def returnedSeq : Except Failure Reply → Option ℕ
  | .ok (.message _ _ seq _) => some seq
  | .ok (.event event) =>
    match ObjectNode.get (java "seq") event.params with
    | some (.number (.integral seq)) => some seq.toNat
    | _ => none
  | _ => none

/-- The call, when it succeeds, stores an event of the thread or a new user message of it. -/
def StoreCall.storesIn (platform : Platform P) (db : Database P) (threadId : JavaString) :
    StoreCall → Bool
  | .appendEvent event => eventThreadId platform event = some threadId
  | .recordUserMessage other turnId _ =>
    other = threadId ∧ (db.item other (userMessageItemId platform turnId)).isNone
  | _ => false

/-- The numbers of a thread that some calls return for what they store. -/
def newSeqs (platform : Platform P) (threadId : JavaString) :
    Database P → List (StoreCall × Option Failure) → List ℕ
  | _, [] => []
  | db, (call, failure) :: calls =>
    let result := call.attempt platform failure db
    (if call.storesIn platform db threadId then (returnedSeq result.1).toList else []) ++
      newSeqs platform threadId result.2 calls

/-- A successful call that stores something returns the next number, and the counter is that number;
every other call leaves the counter as it is. -/
structure CountsStep (platform : Platform P) (db db' : Database P) (call : StoreCall)
    (result : Except Failure Reply) (threadId : JavaString) : Prop where
  stored : (∃ reply, result = .ok reply) → call.storesIn platform db threadId = true →
    returnedSeq result = some (db.lastSeqOf threadId + 1) ∧
      db'.lastSeqOf threadId = db.lastSeqOf threadId + 1
  other : ¬ ((∃ reply, result = .ok reply) ∧ call.storesIn platform db threadId = true) →
    db'.lastSeqOf threadId = db.lastSeqOf threadId

lemma countsStep_of_same {result : Except Failure Reply}
    (hstores : call.storesIn platform db threadId = false)
    (hsame : db'.lastSeqOf threadId = db.lastSeqOf threadId) :
    CountsStep platform db db' call result threadId where
  stored _ h := by
    rw [hstores] at h
    cases h
  other _ := hsame

lemma lastSeqOf_of_thread (hthread : db.thread threadId = some thread) :
    db.lastSeqOf threadId = thread.lastSeq := by
  rw [Database.lastSeqOf, hthread]
  rfl

lemma countsStep_effect (hchecked : call.checked platform = true)
    (heffect : Effect platform db call reply db') (threadId : JavaString) :
    CountsStep platform db db' call (.ok reply) threadId := by
  cases heffect with
  | created hcall hnew =>
    refine countsStep_of_same ?_ (lastSeqOf_addThread hnew rfl threadId)
    rcases hcall with rfl | rfl <;> rfl
  | existing => exact countsStep_of_same rfl rfl
  | @recorded other turnId text thread row hthread hmax hnew hrow =>
    have hlast := lastSeqOf_of_thread hthread
    have hstores : (StoreCall.recordUserMessage other turnId text).storesIn platform db threadId =
        true ↔ other = threadId := by
      simp [StoreCall.storesIn, hnew]
    constructor
    · rintro - h
      obtain rfl := hstores.mp h
      rw [lastSeqOf_advance hthread, if_pos rfl, hlast]
      exact ⟨rfl, rfl⟩
    · intro h
      have hne : threadId ≠ other := by
        rintro rfl
        exact h ⟨⟨_, rfl⟩, hstores.mpr rfl⟩
      rw [lastSeqOf_advance hthread, if_neg hne]
  | repeated hthread hitem hread hturn htext =>
    refine countsStep_of_same ?_ rfl
    simp [StoreCall.storesIn, hitem]
  | @appended event other thread row event' hid hthread hmax hrow hnone hevent =>
    have hlast := lastSeqOf_of_thread hthread
    -- The event has passed the check of its thread.
    obtain ⟨id, hsome⟩ : ∃ id, eventThreadId platform event = some id := by
      simp only [StoreCall.checked, Bool.and_eq_true] at hchecked
      obtain ⟨id, hsome, -⟩ := Option.any_eq_true .. |>.mp hchecked.1
      exact ⟨id, hsome⟩
    obtain rfl : other = id := by rw [hid, hsome]; rfl
    have hstores : (StoreCall.appendEvent event).storesIn platform db threadId = true ↔
        other = threadId := by
      simp [StoreCall.storesIn, hsome]
    constructor
    · rintro - h
      obtain rfl := hstores.mp h
      rw [lastSeqOf_advance hthread, if_pos rfl, hlast]
      refine ⟨?_, rfl⟩
      rw [hevent, returnedSeq, ObjectNode.get_set, if_pos rfl]
      simp
    · intro h
      have hne : threadId ≠ other := by
        rintro rfl
        exact h ⟨⟨_, rfl⟩, hstores.mpr rfl⟩
      rw [lastSeqOf_advance hthread, if_neg hne]
  | recovered => exact countsStep_of_same rfl (lastSeqOf_recover threadId)

theorem countsStep_attempt (platform : Platform P) (failure : Option Failure) (call : StoreCall)
    (db : Database P) (threadId : JavaString) :
    CountsStep platform db (call.attempt platform failure db).2 call
      (call.attempt platform failure db).1 threadId := by
  rcases attempt_cases platform failure call db with
    ⟨reply, hreply, hchecked, heffect⟩ | ⟨⟨failure', hfailure⟩, hsame⟩
  · rw [hreply]
    exact countsStep_effect hchecked heffect threadId
  · rw [hsame, hfailure]
    refine ⟨?_, fun _ => rfl⟩
    rintro ⟨reply, h⟩
    cases h

/-- The numbers that a run returns for a thread are those from its counter on, without a gap. -/
theorem newSeqs_eq_range (platform : Platform P) (threadId : JavaString) (db : Database P)
    (calls : List (StoreCall × Option Failure)) :
    db.lastSeqOf threadId ≤ (StoreCall.after platform db calls).lastSeqOf threadId ∧
      newSeqs platform threadId db calls = List.range' (db.lastSeqOf threadId + 1)
        ((StoreCall.after platform db calls).lastSeqOf threadId - db.lastSeqOf threadId) := by
  induction calls generalizing db with
  | nil => simp [newSeqs, StoreCall.after]
  | cons head calls ih =>
    obtain ⟨call, failure⟩ := head
    obtain ⟨hle, hrest⟩ := ih (call.attempt platform failure db).2
    obtain ⟨hstored, hother⟩ := countsStep_attempt platform failure call db threadId
    have hafter : StoreCall.after platform db ((call, failure) :: calls) =
        StoreCall.after platform (call.attempt platform failure db).2 calls := rfl
    rw [hafter, newSeqs, hrest]
    by_cases hstores : (∃ reply, (call.attempt platform failure db).1 = .ok reply) ∧
        call.storesIn platform db threadId = true
    · obtain ⟨hseq, hlast⟩ := hstored hstores.1 hstores.2
      rw [hlast] at hle ⊢
      refine ⟨Nat.le_of_succ_le hle, ?_⟩
      rw [if_pos hstores.2, hseq]
      have hcount : (StoreCall.after platform (call.attempt platform failure db).2 calls).lastSeqOf
          threadId - db.lastSeqOf threadId =
          ((StoreCall.after platform (call.attempt platform failure db).2 calls).lastSeqOf
            threadId - (db.lastSeqOf threadId + 1)) + 1 := by omega
      rw [hcount, List.range'_succ]
      rfl
    · have hlast := hother hstores
      rw [hlast] at hle ⊢
      refine ⟨hle, ?_⟩
      have hnil : (if call.storesIn platform db threadId = true then
          (returnedSeq (call.attempt platform failure db).1).toList else []) = [] := by
        split_ifs with hin
        · cases hresult : (call.attempt platform failure db).1 with
          | error => rfl
          | ok reply => exact absurd ⟨⟨reply, hresult⟩, hin⟩ hstores
        · rfl
      rw [hnil, List.nil_append]

/-! ## Items over a run -/

/-- The call brings a new version of an item. -/
def StoreCall.replaces (platform : Platform P) (threadId itemId : JavaString) : StoreCall → Bool
  | .appendEvent event => eventThreadId platform event = some threadId ∧
    (itemFromEvent event).any fun item =>
      asText platform (path "itemId" (some (.object item))) = some itemId
  | _ => false

lemma path_textFields (platform : Platform P) (name : String)
    (fields : List (String × JavaString)) :
    asText platform (path name (some (.object (textFields fields)))) = fields.lookup name := by
  induction fields with
  | nil => rfl
  | cons field fields ih =>
    obtain ⟨key, text⟩ := field
    simp only [path, textFields, List.map_cons] at ih ⊢
    rw [ObjectNode.get_java_cons, List.lookup_cons]
    split_ifs with heq
    · simp [heq, asText]
    · have hne : (name == key) = false := by simpa using heq
      rw [hne]
      exact ih

/-- A stored item keeps its first number, and it is as it was unless an event replaces it. -/
lemma item_effect (hchecked : call.checked platform = true)
    (heffect : Effect platform db call reply db') {itemId : JavaString} {row : ItemRow P}
    (hitem : db.item threadId itemId = some row) :
    ∃ row', db'.item threadId itemId = some row' ∧ row'.firstSeq = row.firstSeq ∧
      (call.replaces platform threadId itemId = false → row' = row) := by
  cases heffect with
  | created | existing | recovered | repeated => exact ⟨row, hitem, rfl, fun _ => rfl⟩
  | @recorded other turnId text thread new hthread hmax hnew hrow =>
    refine ⟨row, ?_, rfl, fun _ => rfl⟩
    have hid : userMessageItemId platform turnId = new.itemId :=
      Option.some.inj ((path_textFields platform "itemId" _).symm.trans hrow.itemId)
    have hne : (threadId, itemId) ≠ new.key := by
      intro heq
      obtain ⟨rfl, rfl⟩ := Prod.mk.inj heq
      rw [hrow.threadId, ← hid, hnew] at hitem
      cases hitem
    change (db.putItem new).item threadId itemId = _
    rw [item_putItem, if_neg hne]
    exact hitem
  | @appended event other thread new event' hid hthread hmax hrow hnone hevent =>
    cases new with
    | none => exact ⟨row, hitem, rfl, fun _ => rfl⟩
    | some new =>
      obtain ⟨item, hitemOf, hrowOf⟩ := hrow new rfl
      have hput : (db.advance other (some new) (thread.lastSeq + 1)
          (threadAfter platform thread event).1 (threadAfter platform thread event).2).item
            threadId itemId = (db.putItem new).item threadId itemId := rfl
      rw [hput, item_putItem]
      by_cases hsame : (threadId, itemId) = new.key
      · rw [if_pos hsame, hitem]
        refine ⟨_, rfl, rfl, ?_⟩
        intro hreplaces
        -- This event is one that replaces the item.
        obtain ⟨rfl, rfl⟩ := Prod.mk.inj hsame
        obtain ⟨id, hsome⟩ : ∃ id, eventThreadId platform event = some id := by
          simp only [StoreCall.checked, Bool.and_eq_true] at hchecked
          obtain ⟨id, hsome, -⟩ := Option.any_eq_true .. |>.mp hchecked.1
          exact ⟨id, hsome⟩
        have hthreadId : eventThreadId platform event = some new.threadId := by
          rw [hsome, hrowOf.threadId, hid, hsome]
          rfl
        simp [StoreCall.replaces, hthreadId, hitemOf, hrowOf.itemId] at hreplaces
      · rw [if_neg hsame]
        exact ⟨row, hitem, rfl, fun _ => rfl⟩

lemma isSome_thread_effect (heffect : Effect platform db call reply db')
    (hthread : (db.thread threadId).isSome) : (db'.thread threadId).isSome := by
  cases heffect with
  | created hcall hnew =>
    rw [thread_addThread hnew]
    split_ifs
    · rfl
    · exact hthread
  | existing | repeated => exact hthread
  | recorded | appended =>
    rw [thread_advance, Option.isSome_map]
    exact hthread
  | recovered =>
    rw [thread_recover, Option.isSome_map]
    exact hthread

lemma after_snoc (platform : Platform P) (db : Database P)
    (calls : List (StoreCall × Option Failure)) (call : StoreCall × Option Failure) :
    StoreCall.after platform db (calls ++ [call]) =
      (call.1.attempt platform call.2 (StoreCall.after platform db calls)).2 :=
  List.foldl_append ..

/-- A database that some calls have made of a fresh one. -/
theorem sequenced_after (platform : Platform P) (workspaces : List WorkspaceSnapshot)
    (calls : List (StoreCall × Option Failure)) :
    Sequenced (StoreCall.after platform (.fresh workspaces) calls) := by
  refine List.foldlRecOn calls _ (sequenced_fresh workspaces) ?_
  rintro db h ⟨call, failure⟩ -
  rcases attempt_cases platform failure call db with
    ⟨reply, -, -, heffect⟩ | ⟨-, hsame⟩
  · exact h.effect heffect
  · rw [hsame]
    exact h

/-- The message of a turn is stored, under a number. -/
structure StoredMessage (platform : Platform P) (db : Database P) (threadId turnId text : JavaString)
    (row : ItemRow P) (item : ObjectNode) : Prop where
  thread : (db.thread threadId).isSome
  stored : db.item threadId (userMessageItemId platform turnId) = some row
  read : platform.read row.payload = some (.object item)
  turnId : asText platform (path "turnId" (some (.object item))) = some turnId
  text : asText platform (path "text" (some (.object item))) = some text

lemma wellFormed_of_isIdentifier {head : String} (hhead : ∀ u ∈ java head, u.toNat < 0x80)
    {id : JavaString} (h : isIdentifier head id = true) : Sidecar.wellFormed id = true :=
  Sidecar.wellFormed_of_ascii (Sidecar.ascii_of_matchesHeadTail hhead h)

lemma isIdentifier_userMessageItemId (platform : Platform P) {turnId : JavaString}
    (h : isIdentifier "turn_" turnId = true) :
    isIdentifier userItemIdHead (userMessageItemId platform turnId) = true := by
  unfold userMessageItemId
  dsimp only
  split_ifs
  · have hlength : "turn_".length = (java "turn_").length := by decide
    rw [isIdentifier, Sidecar.matchesHeadTail, Bool.and_eq_true] at h ⊢
    rw [hlength, List.drop_left, List.isPrefixOf_iff_prefix]
    exact ⟨List.prefix_append _ _, h.2⟩
  · exact isIdentifier_hashed platform _

lemma Platform.Faithful.reads_userItem (hplatform : platform.Faithful) {turnId text : JavaString}
    (hturn : isIdentifier "turn_" turnId = true) (htext : Sidecar.wellFormed text = true) :
    platform.read (platform.write (userItem (userMessageItemId platform turnId) turnId text)) =
      some (.object (userItem (userMessageItemId platform turnId) turnId text)) := by
  unfold userItem
  refine hplatform.reads _ (by simp) ?_
  have hid := wellFormed_of_isIdentifier (forall_mem_of_all (by decide +kernel))
    (isIdentifier_userMessageItemId platform hturn)
  have hturn' := wellFormed_of_isIdentifier (forall_mem_of_all (by decide +kernel)) hturn
  intro field hfield
  simp only [List.mem_cons, List.not_mem_nil, or_false] at hfield
  rcases hfield with rfl | rfl | rfl | rfl | rfl | rfl
  · exact hid
  · exact hturn'
  · decide +kernel
  · decide +kernel
  · exact htext
  · decide +kernel

variable {turnId text : JavaString} {row : ItemRow P} {item : ObjectNode}

lemma storedMessage_of_effect (hplatform : platform.Faithful)
    (hturn : isIdentifier "turn_" turnId = true) (htext : Sidecar.wellFormed text = true)
    (heffect : Effect platform db (.recordUserMessage threadId turnId text) reply db') :
    ∃ row item, StoredMessage platform db' threadId turnId text row item ∧
      reply = .message threadId turnId row.firstSeq item := by
  cases heffect with
  | created hcall => rcases hcall with hcall | hcall <;> cases hcall
  | @recorded _ _ _ thread new hthread hmax hnew hrow =>
    have hid : userMessageItemId platform turnId = new.itemId :=
      Option.some.inj ((path_textFields platform "itemId" _).symm.trans hrow.itemId)
    have hkey : (threadId, userMessageItemId platform turnId) = new.key := by
      rw [ItemRow.key, hrow.threadId, hid]
    refine ⟨new, _, ⟨?_, ?_, ?_, path_textFields platform "turnId" _,
      path_textFields platform "text" _⟩, by rw [hrow.firstSeq]⟩
    · rw [thread_advance, Option.isSome_map, hthread]
      rfl
    · change (db.putItem new).item threadId (userMessageItemId platform turnId) = some new
      rw [item_putItem, if_pos hkey, hnew]
      rfl
    · rw [hrow.payload]
      exact hplatform.reads_userItem hturn htext
  | @repeated _ _ _ thread row stored hthread hitem hread hturnOf htextOf =>
    exact ⟨row, stored, ⟨by rw [hthread]; rfl, hitem, hread, hturnOf, htextOf⟩, rfl⟩

/-- It stays stored through calls none of which stores another version of its item. -/
lemma StoredMessage.after (h : StoredMessage platform db threadId turnId text row item)
    {calls : List (StoreCall × Option Failure)}
    (hkeeps : ∀ pre call post, calls = pre ++ call :: post →
      call.1.replaces platform threadId (userMessageItemId platform turnId) = true →
        ∃ failure, (call.1.attempt platform call.2 (StoreCall.after platform db pre)).1 =
          .error failure) :
    StoredMessage platform (StoreCall.after platform db calls) threadId turnId text row item := by
  induction calls using List.reverseRecOn with
  | nil => exact h
  | append_singleton calls call ih =>
    have hbefore := ih fun pre other post heq =>
      hkeeps pre other (post ++ [call]) (by rw [heq]; simp)
    rw [after_snoc]
    rcases attempt_cases platform call.2 call.1 (StoreCall.after platform db calls) with
      ⟨reply, hreply, hchecked, heffect⟩ | ⟨-, hsame⟩
    · have hnot : call.1.replaces platform threadId (userMessageItemId platform turnId) = false := by
        by_contra htrue
        obtain ⟨failure, hfailure⟩ := hkeeps calls call [] rfl (by simpa using htrue)
        rw [hreply] at hfailure
        cases hfailure
      obtain ⟨row', hrow', -, hkeep⟩ := item_effect hchecked heffect hbefore.stored
      obtain rfl := hkeep hnot
      exact ⟨isSome_thread_effect heffect hbefore.thread, hrow', hbefore.read, hbefore.turnId,
        hbefore.text⟩
    · rw [hsame]
      exact hbefore

lemma StoredMessage.record (h : StoredMessage platform db threadId turnId text row item)
    (hsequenced : Sequenced db) (again : JavaString) :
    runFrom (recordUserMessage platform threadId turnId again) db =
      if again = text then (.ok (.message threadId turnId row.firstSeq item), db)
      else (.error (conflict "user message identity was already used with different content"),
        db) := by
  obtain ⟨thread, hthread⟩ := Option.isSome_iff_exists.mp h.thread
  have hpos : row.firstSeq ≠ 0 :=
    Nat.ne_of_gt (hsequenced.bounds row (Table.mem_of_find h.stored)).1
  have hrequire : runFrom (requireThread threadId) db = (.ok thread, db) := by
    rw [requireThread, runFrom_bind, runFrom_get]
    dsimp only
    rw [hthread]
    rfl
  have hparse : runFrom (parseItem platform row.payload) db = (.ok item, db) := by
    unfold parseItem
    rw [h.read]
    rfl
  rw [recordUserMessage, runFrom_bind, hrequire]
  dsimp only
  rw [runFrom_bind, runFrom_get]
  dsimp only
  rw [h.stored]
  dsimp only
  rw [runFrom_bind, hparse]
  dsimp only
  rw [h.turnId, h.text]
  by_cases hsame : again = text
  · rw [if_pos hsame, if_neg (by simp [hsame]), if_neg hpos]
    rfl
  · have hne : text ≠ again := Ne.symm hsame
    rw [if_neg hsame, if_pos (by simp [hne])]
    rfl

/-- **The numbers of the history**, after any calls on a database without threads. -/
structure SequencesKept (platform : Platform P) (workspaces : List WorkspaceSnapshot)
    (calls : List (StoreCall × Option Failure)) : Prop where
  /-- The numbers that a thread's events and new messages return are one, two, and so on. -/
  contiguous : ∀ threadId, newSeqs platform threadId (.fresh workspaces) calls =
    List.range' 1 ((StoreCall.after platform (.fresh workspaces) calls).lastSeqOf threadId)
  /-- The next call counts in its thread when it stores something, and nowhere otherwise. -/
  counts : ∀ (call : StoreCall) (failure : Option Failure) threadId,
    CountsStep platform (StoreCall.after platform (.fresh workspaces) calls)
      (StoreCall.after platform (.fresh workspaces) (calls ++ [(call, failure)])) call
      (call.attempt platform failure (StoreCall.after platform (.fresh workspaces) calls)).1 threadId
  bounds : ∀ row ∈ (StoreCall.after platform (.fresh workspaces) calls).items,
    1 ≤ row.firstSeq ∧ row.firstSeq ≤ row.lastSeq ∧
      row.lastSeq ≤ (StoreCall.after platform (.fresh workspaces) calls).lastSeqOf row.threadId
  distinct : ∀ row ∈ (StoreCall.after platform (.fresh workspaces) calls).items,
    ∀ other ∈ (StoreCall.after platform (.fresh workspaces) calls).items,
      row.threadId = other.threadId → row.firstSeq = other.firstSeq → row.itemId = other.itemId
  firstSeq_stays : ∀ more threadId itemId row,
    (StoreCall.after platform (.fresh workspaces) calls).item threadId itemId = some row →
      ∃ row', (StoreCall.after platform (.fresh workspaces) (calls ++ more)).item threadId itemId =
        some row' ∧ row'.firstSeq = row.firstSeq
  /-- A message that was recorded is returned again, and another text is refused, as long as no
  event has brought another version of its item. -/
  repeated : ∀ threadId turnId text failure reply more, Sidecar.wellFormed text = true →
    let call := StoreCall.recordUserMessage threadId turnId text
    let db := StoreCall.after platform (.fresh workspaces) calls
    let db' := StoreCall.after platform (.fresh workspaces) (calls ++ (call, failure) :: more)
    (call.attempt platform failure db).1 = .ok reply →
      (∀ pre other post, more = pre ++ other :: post →
        other.1.replaces platform threadId (userMessageItemId platform turnId) = true →
          ∃ e, (other.1.attempt platform other.2
            (StoreCall.after platform (.fresh workspaces) (calls ++ (call, failure) :: pre))).1 =
              .error e) →
        call.attempt platform none db' = (.ok reply, db') ∧
          ∀ again, again ≠ text → ∃ e,
            (StoreCall.recordUserMessage threadId turnId again).attempt platform none db' =
              (.error e, db')

theorem sequences_kept (hplatform : platform.Faithful) (workspaces : List WorkspaceSnapshot)
    (calls : List (StoreCall × Option Failure)) : SequencesKept platform workspaces calls := by
  have hsequenced := sequenced_after platform workspaces calls
  have hzero : ∀ threadId, (Database.fresh workspaces : Database P).lastSeqOf threadId = 0 :=
    fun _ => rfl
  constructor
  case contiguous =>
    intro threadId
    have hrange := (newSeqs_eq_range platform threadId (.fresh workspaces) calls).2
    rw [hzero] at hrange
    exact hrange
  case counts =>
    intro call failure threadId
    rw [after_snoc]
    exact countsStep_attempt platform failure call _ threadId
  case bounds => exact hsequenced.bounds
  case distinct => exact hsequenced.distinct
  case firstSeq_stays =>
    intro more threadId itemId row hrow
    induction more using List.reverseRecOn with
    | nil =>
      rw [List.append_nil]
      exact ⟨row, hrow, rfl⟩
    | append_singleton more call ih =>
      obtain ⟨row', hrow', hseq⟩ := ih
      rw [← List.append_assoc, after_snoc]
      rcases attempt_cases platform call.2 call.1
          (StoreCall.after platform (.fresh workspaces) (calls ++ more)) with
        ⟨reply, -, hchecked, heffect⟩ | ⟨-, hsame⟩
      · obtain ⟨last, hlast, hseq', -⟩ := item_effect hchecked heffect hrow'
        exact ⟨last, hlast, hseq'.trans hseq⟩
      · rw [hsame]
        exact ⟨row', hrow', hseq⟩
  case repeated =>
    intro threadId turnId text failure reply more hwell call db db' hreply hkeeps
    have hrest : ∀ rest, StoreCall.after platform (.fresh workspaces)
        (calls ++ (call, failure) :: rest) =
          StoreCall.after platform (call.attempt platform failure db).2 rest := by
      intro rest
      rw [List.append_cons, StoreCall.after, List.foldl_append]
      exact congrArg (fun d => List.foldl _ d rest) (after_snoc platform _ calls (call, failure))
    rcases attempt_cases platform failure call db with
      ⟨reply', hreply', hchecked, heffect⟩ | ⟨⟨e, herror⟩, -⟩
    · obtain rfl := Except.ok.inj (hreply.symm.trans hreply')
      have hturn : isIdentifier "turn_" turnId = true := by
        simp only [call, StoreCall.checked, Bool.and_eq_true] at hchecked
        exact hchecked.1.2
      obtain ⟨row, item, hstored, rfl⟩ :=
        storedMessage_of_effect hplatform hturn hwell heffect
      have hlater : StoredMessage platform db' threadId turnId text row item := by
        have hafter := hstored.after fun pre other post (heq : more = _) hreplaces => by
          have hsome := hkeeps pre other post heq hreplaces
          rw [hrest] at hsome
          exact hsome
        rw [← hrest] at hafter
        exact hafter
      have hrecord := hlater.record (sequenced_after platform workspaces _)
      constructor
      · unfold StoreCall.attempt
        rw [if_neg (by simp [hchecked])]
        have hrun : runFrom (call.work platform) db' =
            (.ok (.message threadId turnId row.firstSeq item), db') := by
          have := hrecord text
          rwa [if_pos rfl] at this
        dsimp only
        rw [hrun]
      · intro again hne
        unfold StoreCall.attempt
        split_ifs
        · exact ⟨_, rfl⟩
        · have hrun := hrecord again
          rw [if_neg hne] at hrun
          have hwork : runFrom ((StoreCall.recordUserMessage threadId turnId again).work platform)
              db' = _ := hrun
          dsimp only
          rw [hwork]
          exact ⟨_, rfl⟩
    · rw [hreply] at herror
      cases herror

/-! ## A platform that keeps trees -/

/-- A column holds the tree itself. -/
def treePlatform : Platform ObjectNode where
  write := id
  length _ := 0
  read item := some (.object item)
  numberText _ := []
  nameUuid _ := ⟨List.replicate 32 0x30, by simp, by simp [Sidecar.isLowerHex]⟩

lemma treePlatform_faithful : treePlatform.Faithful := ⟨fun _ _ _ => rfl⟩

def workspaceA : WorkspaceSnapshot := ⟨java "ws_a", java "A", java "/a", java "trusted", false⟩

/-- An event whose item has the identifier of a user message. -/
def replacingEvent : TurnEvent where
  method := "item/completed"
  params := [(java "threadId", .string (java "thr_a")), (java "item", .object (textFields
    [("itemId", java "item_user_a"), ("turnId", java "turn_b"), ("kind", java "agent_message")]))]

/-- A thread with a user message, and an event that replaces it. -/
def replacingCalls : List (StoreCall × Option Failure) :=
  [(.ensureThread (java "thr_a") (java "ws_a") (java "Thread"), none),
    (.recordUserMessage (java "thr_a") (java "turn_a") (java "hi"), none),
    (.appendEvent replacingEvent, none)]

theorem sequences_kept_replacing : SequencesKept treePlatform [workspaceA] replacingCalls :=
  sequences_kept treePlatform_faithful [workspaceA] replacingCalls

/-- Whether a call returns. -/
def returns {T : Type} : Except Failure T → Bool
  | .ok _ => true
  | .error _ => false

/-- The same message is refused once an event has replaced its item. -/
theorem message_refused_after_replacing :
    ¬ ∀ (workspaces : List WorkspaceSnapshot) (calls more : List (StoreCall × Option Failure))
      (threadId turnId text : JavaString) (reply : Reply),
      let call := StoreCall.recordUserMessage threadId turnId text
      (call.attempt treePlatform none (StoreCall.after treePlatform (.fresh workspaces) calls)).1 =
        .ok reply →
        (call.attempt treePlatform none (StoreCall.after treePlatform (.fresh workspaces)
          (calls ++ (call, none) :: more))).1 = .ok reply := by
  intro h
  let call := StoreCall.recordUserMessage (java "thr_a") (java "turn_a") (java "hi")
  have hfirst : returns (call.attempt treePlatform none
      (StoreCall.after treePlatform (.fresh [workspaceA]) (replacingCalls.take 1))).1 = true := by
    decide +kernel
  have hlast : returns (call.attempt treePlatform none
      (StoreCall.after treePlatform (.fresh [workspaceA]) replacingCalls)).1 = false := by
    decide +kernel
  cases hreply : (call.attempt treePlatform none
      (StoreCall.after treePlatform (.fresh [workspaceA]) (replacingCalls.take 1))).1 with
  | error failure =>
    rw [hreply] at hfirst
    cases hfirst
  | ok reply =>
    have hagain := h [workspaceA] (replacingCalls.take 1) [(.appendEvent replacingEvent, none)]
      (java "thr_a") (java "turn_a") (java "hi") reply hreply
    rw [show replacingCalls.take 1 ++ (call, none) :: [(.appendEvent replacingEvent, none)] =
      replacingCalls from rfl] at hagain
    rw [hagain] at hlast
    cases hlast

end JaDesktop.Persistence
