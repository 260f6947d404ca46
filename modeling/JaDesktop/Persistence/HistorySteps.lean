import JaDesktop.Persistence.History

/-!
# What a call of the history store does

One lemma for each helper says how it succeeds, and `effect_of_ok` gathers what a successful call
makes of the database: a thread is added, a thread advances by one sequence with an item or without
one, a message is found again, or the interrupted threads are reset.
-/

namespace JaDesktop.Persistence

open Sidecar (JsonNode ObjectNode TurnEvent java isBlank)

variable {P : Type} {platform : Platform P} {db db' : Database P} {threadId : JavaString}

/-! ## Helpers

Each is followed by a rest `f`, as in a method. -/

variable {T : Type} {result : T}

lemma requireThread_bind {f : ThreadSnapshot → Work P T} :
    runFrom (requireThread threadId >>= f) db = (.ok result, db') ↔
      ∃ thread, db.thread threadId = some thread ∧ runFrom (f thread) db = (.ok result, db') := by
  rw [runFrom_bind, requireThread, runFrom_bind, runFrom_get]
  dsimp only
  cases db.thread threadId with
  | none => simp
  | some found => simp

lemma nextSequence_bind {current : ℕ} {f : ℕ → Work P T} :
    runFrom (nextSequence current >>= f) db = (.ok result, db') ↔
      current ≠ longMax ∧ runFrom (f (current + 1)) db = (.ok result, db') := by
  rw [runFrom_bind]
  unfold nextSequence
  split_ifs with hmax
  · simp [hmax]
  · simp [hmax]

lemma parseItem_bind {payload : P} {f : ObjectNode → Work P T}
    (h : runFrom (parseItem platform payload >>= f) db = (.ok result, db')) :
    ∃ item, platform.read payload = some (.object item) ∧
      runFrom (f item) db = (.ok result, db') := by
  obtain ⟨item, db₁, hparse, hrest⟩ := runFrom_bind_ok.mp h
  unfold parseItem at hparse
  split at hparse
  · next read hread =>
    obtain ⟨hitem, hdb⟩ := Prod.mk.inj hparse
    rw [hdb]
    exact ⟨item, Except.ok.inj hitem ▸ hread, hrest⟩
  · cases congrArg Prod.fst hparse

variable {f : Unit → Work P T} {seq : ℕ} {status : ThreadStatus} {active : Option JavaString}
  {row : Option (ItemRow P)}

lemma insertThread_bind {workspaceId title : JavaString}
    (h : runFrom (insertThread threadId workspaceId title >>= f) db = (.ok result, db')) :
    db.thread threadId = none ∧
      runFrom (f ()) (db.addThread ⟨threadId, workspaceId, title, .idle, 0, none⟩) =
        (.ok result, db') := by
  rw [runFrom_bind, insertThread, runFrom_bind, runFrom_get] at h
  dsimp only at h
  split_ifs at h with hguard
  · cases congrArg Prod.fst h
  · push Not at hguard
    exact ⟨Option.not_isSome_iff_eq_none.mp hguard.1, h⟩

lemma updateThread_bind
    (h : runFrom (updateThread threadId seq status active >>= f) db = (.ok result, db')) :
    runFrom (f ()) (db.setThread threadId seq status
      (active.filter fun turnId => !isBlank turnId)) = (.ok result, db') := by
  obtain ⟨u, db₁, hupdate, hrest⟩ := runFrom_bind_ok.mp h
  rw [updateThread, runFrom_bind, runFrom_get] at hupdate
  dsimp only at hupdate
  rw [runFrom_bind, runFrom_set] at hupdate
  dsimp only at hupdate
  split_ifs at hupdate
  · cases congrArg Prod.fst hupdate
  · rw [(Prod.mk.inj hupdate).2]
    exact hrest

/-- The row that an item becomes. -/
structure RowOf (platform : Platform P) (threadId : JavaString) (item : ObjectNode) (seq : ℕ)
    (row : ItemRow P) : Prop where
  itemId : asText platform (path "itemId" (some (.object item))) = some row.itemId
  turnId : asText platform (path "turnId" (some (.object item))) = some row.turnId
  kind : asText platform (path "kind" (some (.object item))) = some row.kind
  threadId : row.threadId = threadId
  firstSeq : row.firstSeq = seq
  lastSeq : row.lastSeq = seq
  payload : row.payload = platform.write item
  fits : platform.length (platform.write item) ≤ maxTextLength

lemma upsertItem_bind {item : ObjectNode}
    (h : runFrom (upsertItem platform threadId item seq >>= f) db = (.ok result, db')) :
    ∃ row, RowOf platform threadId item seq row ∧
      runFrom (f ()) (db.putItem row) = (.ok result, db') := by
  obtain ⟨u, db₁, hupsert, hrest⟩ := runFrom_bind_ok.mp h
  unfold upsertItem at hupsert
  split at hupsert
  · next itemId turnId kind hitem hturn hkind =>
    obtain ⟨hfits, hlength⟩ := runFrom_guard_ok.mp hupsert
    rw [runFrom_bind, runFrom_get] at hlength
    obtain ⟨-, hset⟩ := runFrom_guard_ok.mp hlength
    refine ⟨⟨threadId, itemId, turnId, kind, seq, seq, platform.write item⟩,
      ⟨hitem, hturn, hkind, rfl, rfl, rfl, rfl, Nat.le_of_not_lt hfits⟩, ?_⟩
    rw [(Prod.mk.inj hset).2]
    exact hrest
  · cases congrArg Prod.fst hupsert

/-! ## Methods -/

/-- A thread goes on by one sequence number, with an item or without one. -/
def Database.advance (db : Database P) (threadId : JavaString) (row : Option (ItemRow P)) (seq : ℕ)
    (status : ThreadStatus) (active : Option JavaString) : Database P :=
  (row.elim db db.putItem).setThread threadId seq status
    (active.filter fun turnId => !isBlank turnId)

/-- A thread that has just been made. -/
def newThread (threadId workspaceId title : JavaString) : ThreadSnapshot :=
  ⟨threadId, workspaceId, title, .idle, 0, none⟩

/-- What a call that succeeds makes of the database. -/
inductive Effect (platform : Platform P) (db : Database P) :
    StoreCall → Reply → Database P → Prop
  | created {threadId workspaceId title : JavaString} {call : StoreCall}
      (hcall : call = .createThread threadId workspaceId title ∨
        call = .ensureThread threadId workspaceId title)
      (hnew : db.thread threadId = none) (reply : Reply) :
      Effect platform db call reply (db.addThread (newThread threadId workspaceId title))
  | existing {threadId workspaceId title : JavaString} {thread : ThreadSnapshot}
      (hthread : db.thread threadId = some thread) :
      Effect platform db (.ensureThread threadId workspaceId title) (.thread thread) db
  | recorded {threadId turnId text : JavaString} {thread : ThreadSnapshot} {row : ItemRow P}
      (hthread : db.thread threadId = some thread) (hmax : thread.lastSeq ≠ longMax)
      (hnew : db.item threadId (userMessageItemId platform turnId) = none)
      (hrow : RowOf platform threadId
        (userItem (userMessageItemId platform turnId) turnId text) (thread.lastSeq + 1) row) :
      Effect platform db (.recordUserMessage threadId turnId text)
        (.message threadId turnId (thread.lastSeq + 1)
          (userItem (userMessageItemId platform turnId) turnId text))
        (db.advance threadId (some row) (thread.lastSeq + 1) thread.status (some turnId))
  | repeated {threadId turnId text : JavaString} {thread : ThreadSnapshot} {row : ItemRow P}
      {stored : ObjectNode} (hthread : db.thread threadId = some thread)
      (hitem : db.item threadId (userMessageItemId platform turnId) = some row)
      (hread : platform.read row.payload = some (.object stored))
      (hturn : asText platform (path "turnId" (some (.object stored))) = some turnId)
      (htext : asText platform (path "text" (some (.object stored))) = some text) :
      Effect platform db (.recordUserMessage threadId turnId text)
        (.message threadId turnId row.firstSeq stored) db
  | appended {event : TurnEvent} {threadId : JavaString} {thread : ThreadSnapshot}
      {row : Option (ItemRow P)} {event' : TurnEvent}
      (hid : threadId = (eventThreadId platform event).getD [])
      (hthread : db.thread threadId = some thread) (hmax : thread.lastSeq ≠ longMax)
      (hrow : ∀ r ∈ row, ∃ item, itemFromEvent event = some item ∧
        RowOf platform threadId item (thread.lastSeq + 1) r)
      (hnone : row = none → itemFromEvent event = none)
      (hevent : event' = { event with
        params := ObjectNode.set (java "seq") (.number (.integral (thread.lastSeq + 1 : ℕ)))
          event.params }) :
      Effect platform db (.appendEvent event) (.event event')
        (db.advance threadId row (thread.lastSeq + 1) (threadAfter platform thread event).1
          (threadAfter platform thread event).2)
  | recovered (rows : ℕ) : Effect platform db .recoverInterruptedThreads (.count rows) db.recover

section Methods

variable {reply : Reply}

lemma effect_createThread {workspaceId title : JavaString}
    (h : runFrom (createThread threadId workspaceId title) db = (.ok reply, db')) :
    Effect platform db (.createThread threadId workspaceId title) reply db' := by
  rw [createThread, runFrom_bind, runFrom_get] at h
  obtain ⟨-, h⟩ := runFrom_guard_ok.mp h
  rw [runFrom_bind, runFrom_get] at h
  obtain ⟨-, h⟩ := runFrom_guard_ok.mp h
  obtain ⟨hnew, h⟩ := insertThread_bind h
  rw [runFrom_bind, runFrom_get] at h
  dsimp only at h
  split at h
  · rw [← (Prod.mk.inj h).2]
    exact .created (Or.inl rfl) hnew reply
  · cases congrArg Prod.fst h

lemma effect_ensureThread {workspaceId title : JavaString}
    (h : runFrom (ensureThread threadId workspaceId title) db = (.ok reply, db')) :
    Effect platform db (.ensureThread threadId workspaceId title) reply db' := by
  rw [ensureThread, runFrom_bind, runFrom_get] at h
  obtain ⟨-, h⟩ := runFrom_guard_ok.mp h
  rw [runFrom_bind, runFrom_get] at h
  dsimp only at h
  split at h
  · next existing hexisting =>
    obtain ⟨-, h⟩ := runFrom_guard_ok.mp h
    obtain ⟨hreply, rfl⟩ := Prod.mk.inj h
    obtain rfl := Except.ok.inj hreply
    exact .existing hexisting
  · obtain ⟨hnew, h⟩ := insertThread_bind h
    rw [runFrom_bind, runFrom_get] at h
    dsimp only at h
    split at h
    · rw [← (Prod.mk.inj h).2]
      exact .created (Or.inr rfl) hnew reply
    · cases congrArg Prod.fst h

lemma effect_recordUserMessage {turnId text : JavaString}
    (h : runFrom (recordUserMessage platform threadId turnId text) db = (.ok reply, db')) :
    Effect platform db (.recordUserMessage threadId turnId text) reply db' := by
  obtain ⟨thread, hthread, h⟩ := requireThread_bind.mp h
  rw [runFrom_bind, runFrom_get] at h
  dsimp only at h
  split at h
  · next row hitem =>
    obtain ⟨stored, hread, h⟩ := parseItem_bind h
    obtain ⟨hsame, h⟩ := runFrom_guard_ok.mp h
    push Not at hsame
    obtain ⟨-, h⟩ := runFrom_guard_ok.mp h
    obtain ⟨hreply, rfl⟩ := Prod.mk.inj h
    obtain rfl := Except.ok.inj hreply
    exact .repeated hthread hitem hread hsame.1 hsame.2
  · next hnew =>
    obtain ⟨hmax, h⟩ := nextSequence_bind.mp h
    obtain ⟨row, hrow, h⟩ := upsertItem_bind h
    have hupdated := updateThread_bind h
    obtain ⟨hreply, rfl⟩ := Prod.mk.inj hupdated
    obtain rfl := Except.ok.inj hreply
    exact .recorded hthread hmax hnew hrow

lemma effect_appendEvent {event : TurnEvent}
    (h : runFrom (appendEvent platform ((eventThreadId platform event).getD []) event) db =
      (.ok reply, db')) : Effect platform db (.appendEvent event) reply db' := by
  obtain ⟨thread, hthread, h⟩ := requireThread_bind.mp h
  obtain ⟨hmax, h⟩ := nextSequence_bind.mp h
  cases hitem : itemFromEvent event with
  | some item =>
    simp only [hitem] at h
    obtain ⟨row, hrow, h⟩ := upsertItem_bind h
    have hupdated := updateThread_bind h
    obtain ⟨hreply, rfl⟩ := Prod.mk.inj hupdated
    obtain rfl := Except.ok.inj hreply
    have hrows : ∀ r ∈ some row, ∃ item, itemFromEvent event = some item ∧
        RowOf platform ((eventThreadId platform event).getD []) item (thread.lastSeq + 1) r := by
      intro r hr
      obtain rfl := Option.some.inj hr
      exact ⟨item, hitem, hrow⟩
    exact .appended rfl hthread hmax hrows (by simp) rfl
  | none =>
    simp only [hitem] at h
    have hupdated := updateThread_bind h
    obtain ⟨hreply, rfl⟩ := Prod.mk.inj hupdated
    obtain rfl := Except.ok.inj hreply
    have hrows : ∀ r ∈ (none : Option (ItemRow P)), ∃ item, itemFromEvent event = some item ∧
        RowOf platform ((eventThreadId platform event).getD []) item (thread.lastSeq + 1) r := by
      simp
    exact .appended rfl hthread hmax hrows (fun _ => hitem) rfl

end Methods

/-- **What a successful call does.** -/
theorem effect_of_ok {call : StoreCall} {reply : Reply}
    (h : runFrom (call.work platform) db = (.ok reply, db')) :
    Effect platform db call reply db' := by
  cases call with
  | createThread threadId workspaceId title => exact effect_createThread h
  | ensureThread threadId workspaceId title => exact effect_ensureThread h
  | recordUserMessage threadId turnId text => exact effect_recordUserMessage h
  | appendEvent event => exact effect_appendEvent h
  | recoverInterruptedThreads =>
    obtain ⟨hreply, rfl⟩ := Prod.mk.inj h
    obtain rfl := Except.ok.inj hreply
    exact .recovered _

lemma attempt_cases (platform : Platform P) (failure : Option Failure) (call : StoreCall)
    (db : Database P) :
    (∃ reply, (call.attempt platform failure db).1 = .ok reply ∧ call.checked platform = true ∧
      Effect platform db call reply (call.attempt platform failure db).2) ∨
    ((∃ failure', (call.attempt platform failure db).1 = .error failure') ∧
      (call.attempt platform failure db).2 = db) := by
  unfold StoreCall.attempt
  split_ifs with hchecked
  · exact Or.inr ⟨⟨_, rfl⟩, rfl⟩
  · cases failure with
    | some failure => exact Or.inr ⟨⟨failure, rfl⟩, rfl⟩
    | none =>
      dsimp only
      split
      · next reply db' hrun =>
        exact Or.inl ⟨reply, rfl, by simpa using hchecked, effect_of_ok hrun⟩
      · exact Or.inr ⟨⟨_, rfl⟩, rfl⟩

/-! ## A call as the owner runs it -/

/-! ## Reading the tables -/

@[simp] lemma thread_putItem (row : ItemRow P) (id : JavaString) :
    (db.putItem row).thread id = db.thread id := rfl

lemma thread_addThread {thread : ThreadSnapshot} (hnew : db.thread thread.threadId = none)
    (id : JavaString) :
    (db.addThread thread).thread id = if id = thread.threadId then some thread else db.thread id :=
  Table.find_append_singleton hnew

lemma thread_setThread (id : JavaString) : (db.setThread threadId seq status active).thread id =
      (db.thread id).map fun thread => if id = threadId then
        { thread with lastSeq := seq, status := status, activeTurnId := active } else thread :=
  Table.find_update fun _ => rfl

lemma thread_recover (id : JavaString) : db.recover.thread id =
    (db.thread id).map fun thread =>
      if thread.status = .running ∨ thread.status = .waitingApproval then
        { thread with status := .idle, activeTurnId := none }
      else thread := by
  refine Table.find_map fun thread => ?_
  split_ifs <;> rfl

lemma item_putItem (row : ItemRow P) (id itemId : JavaString) :
    (db.putItem row).item id itemId = if (id, itemId) = row.key then
        some ((db.item id itemId).elim row fun old => { row with
          threadId := old.threadId, itemId := old.itemId, firstSeq := old.firstSeq })
      else db.item id itemId :=
  Table.find_upsert fun _ => rfl

lemma threads_advance : (db.advance threadId row seq status active).threads =
      (db.setThread threadId seq status (active.filter fun turnId => !isBlank turnId)).threads := by
  cases row <;> rfl

lemma thread_advance (id : JavaString) :
    (db.advance threadId row seq status active).thread id =
      (db.thread id).map fun thread => if id = threadId then
        { thread with
          lastSeq := seq
          status := status
          activeTurnId := active.filter fun turnId => !isBlank turnId }
      else thread := by
  rw [Database.thread, threads_advance]
  exact thread_setThread id

lemma items_advance :
    (db.advance threadId row seq status active).items = (row.elim db db.putItem).items := rfl

end JaDesktop.Persistence
