import JaDesktop.Lib.Tables
import JaDesktop.Persistence.Transactions
import JaDesktop.Sidecar.EventNormalizer

/-!
# The history store

`SqliteHistoryStore` keeps the latest snapshot of every item and one sequence number for every
thread.  A method checks its arguments and then runs one transaction; its body is written here over
the content of the database.  The columns `updated_at` are left out: the methods here do not read
them.

Jackson, the driver and `UUID.nameUUIDFromBytes` are the work of the platform.
-/

namespace JaDesktop.Persistence

open Sidecar (JavaNumber JsonNode ObjectNode TurnEvent java isBlank isLowerHex matchesHeadTail)

/-! ## The platform -/

/-- What the store uses of its platform; `P` is the type of the JSON texts in a column. -/
structure Platform (P : Type) where
  /-- `JSON.writeValueAsString` -/
  write : ObjectNode → P
  length : P → ℕ
  /-- `JSON.readTree` -/
  read : P → Option JsonNode
  /-- `asText` of a number -/
  numberText : JavaNumber → JavaString
  /-- `UUID.nameUUIDFromBytes` of the UTF-8 form of a text, without its dashes -/
  nameUuid : JavaString → {digest : JavaString // digest.length = 32 ∧ digest.all isLowerHex = true}

/-- The fields of an object are texts. -/
def textFields (fields : List (String × JavaString)) : ObjectNode :=
  fields.map fun field => (java field.1, .string field.2)

/-- What is relied on: an object of Unicode texts is read as it was written. -/
structure Platform.Faithful {P : Type} (platform : Platform P) : Prop where
  reads : ∀ fields : List (String × JavaString), (fields.map Prod.fst).Nodup →
    (∀ field ∈ fields, Sidecar.wellFormed field.2 = true) →
      platform.read (platform.write (textFields fields)) = some (.object (textFields fields))

variable {P : Type}

/-- `JsonNode.path` -/
def path (name : String) : Option JsonNode → Option JsonNode
  | some (.object fields) => ObjectNode.get (java name) fields
  | _ => none

variable (platform : Platform P)

/-- `asText(null)` -/
def asText : Option JsonNode → Option JavaString
  | none | some .null => none
  | some (.string text) => some text
  | some (.bool b) => some (java (if b then "true" else "false"))
  | some (.number n) => some (platform.numberText n)
  | some (.array _) | some (.object _) => some []

def isTextual : Option JsonNode → Bool
  | some (.string _) => true
  | _ => false

/-! ## The tables -/

/-- The column `status` of a thread. -/
inductive ThreadStatus
  | idle
  | running
  | waitingApproval
  | archived
deriving DecidableEq

structure WorkspaceSnapshot where
  workspaceId : JavaString
  displayName : JavaString
  rootPath : JavaString
  trust : JavaString
  archived : Bool
deriving DecidableEq

structure ThreadSnapshot where
  threadId : JavaString
  workspaceId : JavaString
  title : JavaString
  status : ThreadStatus
  lastSeq : ℕ
  activeTurnId : Option JavaString
deriving DecidableEq

/-- A row of `thread_item_history`. -/
structure ItemRow (P : Type) where
  threadId : JavaString
  itemId : JavaString
  turnId : JavaString
  kind : JavaString
  firstSeq : ℕ
  lastSeq : ℕ
  payload : P

/-- The primary key of an item. -/
def ItemRow.key (row : ItemRow P) : JavaString × JavaString := (row.threadId, row.itemId)

structure Database (P : Type) where
  workspaces : List WorkspaceSnapshot
  threads : List ThreadSnapshot
  items : List (ItemRow P)

namespace Database

variable (db : Database P)

/-- A database without threads. -/
def fresh (workspaces : List WorkspaceSnapshot) : Database P := ⟨workspaces, [], []⟩

def workspace (workspaceId : JavaString) : Option WorkspaceSnapshot :=
  Table.find WorkspaceSnapshot.workspaceId workspaceId db.workspaces

def thread (threadId : JavaString) : Option ThreadSnapshot :=
  Table.find ThreadSnapshot.threadId threadId db.threads

def item (threadId itemId : JavaString) : Option (ItemRow P) :=
  Table.find ItemRow.key (threadId, itemId) db.items

/-- The row is inserted, or it takes the place of the one with its key, whose first sequence
stays. -/
def putItem (row : ItemRow P) : Database P :=
  let replace (old : ItemRow P) : ItemRow P :=
    { row with threadId := old.threadId, itemId := old.itemId, firstSeq := old.firstSeq }
  { db with items := Table.upsert ItemRow.key row replace db.items }

def addThread (thread : ThreadSnapshot) : Database P :=
  { db with threads := db.threads ++ [thread] }

def setThread (threadId : JavaString) (lastSeq : ℕ) (status : ThreadStatus)
    (activeTurnId : Option JavaString) : Database P :=
  let rewrite (thread : ThreadSnapshot) : ThreadSnapshot :=
    { thread with lastSeq := lastSeq, status := status, activeTurnId := activeTurnId }
  { db with threads := Table.update ThreadSnapshot.threadId threadId rewrite db.threads }

/-- The statement of `recoverInterruptedThreads`. -/
def recover : Database P :=
  let reset (thread : ThreadSnapshot) : ThreadSnapshot :=
    if thread.status = .running ∨ thread.status = .waitingApproval then
      { thread with status := .idle, activeTurnId := none }
    else thread
  { db with threads := db.threads.map reset }

end Database

/-- A body of the store. -/
abbrev Work (P T : Type) := SqlWork (Database P) T

/-! ## Checks and rows -/

def maxTextLength : ℕ := 1048576

def maxIdentifierLength : ℕ := 101

/-- `Long.MAX_VALUE` -/
def longMax : ℕ := 9223372036854775807

/-- `requireIdentifier` -/
def isIdentifier (head : String) (value : JavaString) : Bool := matchesHeadTail head value

/-- `requireText` -/
def isText (maxLength : ℕ) (value : JavaString) : Bool :=
  !isBlank value && value.length ≤ maxLength && !value.contains 0

def notFound (entity : String) : Failure := .persistence ⟨.notFound, entity ++ " was not found"⟩

def conflict (message : String) : Failure := .persistence ⟨.casConflict, message⟩

def requireThread (threadId : JavaString) : Work P ThreadSnapshot := do
  match (← get).thread threadId with
  | some thread => pure thread
  | none => throw (notFound "thread")

/-- `insertThread`; the keys of the schema refuse a second row and an unknown workspace. -/
def insertThread (threadId workspaceId title : JavaString) : Work P Unit := do
  let db ← get
  if (db.thread threadId).isSome ∨ (db.workspace workspaceId).isNone then throw .sql
  else set (db.addThread ⟨threadId, workspaceId, title, .idle, 0, none⟩)

def updateThread (threadId : JavaString) (seq : ℕ) (status : ThreadStatus)
    (activeTurnId : Option JavaString) : Work P Unit := do
  let db ← get
  set (db.setThread threadId seq status (activeTurnId.filter fun turnId => !isBlank turnId))
  if (db.threads.filter fun thread => thread.threadId = threadId).length ≠ 1 then
    throw (notFound "thread")

/-- `upsertItem`; the checks of the schema are those on `seq`. -/
def upsertItem (threadId : JavaString) (item : ObjectNode) (seq : ℕ) :
    Work P Unit := do
  match asText platform (path "itemId" (some (.object item))),
      asText platform (path "turnId" (some (.object item))),
      asText platform (path "kind" (some (.object item))) with
  | some itemId, some turnId, some kind =>
    let payload := platform.write item
    if maxTextLength < platform.length payload then
      throw (.persistence ⟨.invalidState, "history item exceeds the configured size limit"⟩)
    let db ← get
    if seq = 0 ∨ (db.item threadId itemId).any fun row => seq < row.firstSeq then throw .sql
    set (db.putItem ⟨threadId, itemId, turnId, kind, seq, seq, payload⟩)
  | _, _, _ => throw (.persistence ⟨.invalidState, "history item identity is missing"⟩)

def nextSequence (current : ℕ) : Work P ℕ :=
  if current = longMax then
    throw (.persistence ⟨.invalidState, "thread event sequence exhausted"⟩)
  else pure (current + 1)

def parseItem (payload : P) : Work P ObjectNode :=
  match platform.read payload with
  | some (.object item) => pure item
  | _ => throw (.persistence ⟨.databaseCorrupt, "stored history item is invalid"⟩)

/-! ## Methods -/

/-- What a method returns. -/
inductive Reply
  | thread (snapshot : ThreadSnapshot)
  /-- `UserMessageRecord` -/
  | message (threadId turnId : JavaString) (seq : ℕ) (item : ObjectNode)
  | event (event : TurnEvent)
  | count (rows : ℕ)

/-- The body of `createThread`. -/
def createThread (threadId workspaceId title : JavaString) : Work P Reply := do
  if ((← get).workspace workspaceId).isNone then throw (notFound "workspace")
  if ((← get).thread threadId).isSome then throw (conflict "thread already exists")
  insertThread threadId workspaceId title
  match (← get).thread threadId with
  | some thread => pure (.thread thread)
  | none => throw (.persistence ⟨.transaction, "thread create did not produce a row"⟩)

/-- The body of `ensureThread`. -/
def ensureThread (threadId workspaceId title : JavaString) : Work P Reply := do
  if ((← get).workspace workspaceId).isNone then throw (notFound "workspace")
  match (← get).thread threadId with
  | some existing =>
    if existing.workspaceId ≠ workspaceId then
      throw (conflict "thread belongs to another workspace")
    pure (.thread existing)
  | none =>
    insertThread threadId workspaceId title
    match (← get).thread threadId with
    | some thread => pure (.thread thread)
    | none => throw (.persistence ⟨.transaction, "thread ensure did not produce a row"⟩)

/-- `USER_ITEM_ID_PREFIX` -/
def userItemIdHead : String := "item_user_"

/-- `userMessageItemId`; the hashed form passes its check (`isIdentifier_hashed`). -/
def userMessageItemId (turnId : JavaString) : JavaString :=
  let compatible := java userItemIdHead ++ turnId.drop "turn_".length
  if compatible.length ≤ maxIdentifierLength then compatible
  else java userItemIdHead ++ (platform.nameUuid (java "user-message|" ++ turnId)).val

lemma isIdentifier_hashed (platform : Platform P) (text : JavaString) :
    isIdentifier userItemIdHead (java userItemIdHead ++ (platform.nameUuid text).val) = true := by
  obtain ⟨digest, hlength, hhex⟩ := platform.nameUuid text
  have halpha : ∀ u, isLowerHex u = true → Sidecar.isAlphanumeric u = true := by
    intro u hu
    simp only [isLowerHex, Sidecar.isAlphanumeric, Bool.or_eq_true, Bool.and_eq_true,
      decide_eq_true_eq] at hu ⊢
    rcases hu with hdigit | ⟨hlow, hhigh⟩
    · exact Or.inr hdigit
    · exact Or.inl (Or.inr ⟨hlow, UInt16.le_trans hhigh (by decide)⟩)
  rw [List.all_eq_true] at hhex
  simp only [isIdentifier, matchesHeadTail, Bool.and_eq_true, List.isPrefixOf_iff_prefix,
    List.drop_left, List.prefix_append, true_and]
  cases digest with
  | nil => simp at hlength
  | cons first rest =>
    simp only [Sidecar.matchesTail, Bool.and_eq_true, decide_eq_true_eq, List.all_eq_true]
    rw [List.length_cons] at hlength
    refine ⟨⟨halpha first (hhex first (by simp)), by omega⟩, ?_⟩
    intro u hu
    rw [Sidecar.isTailUnit, halpha u (hhex u (by simp [hu]))]
    rfl

/-- The item of a user message. -/
def userItem (itemId turnId text : JavaString) : ObjectNode :=
  textFields [("itemId", itemId), ("turnId", turnId), ("kind", java "user_message"),
    ("status", java "completed"), ("text", text), ("title", java "User message")]

/-- The body of `recordUserMessage`. -/
def recordUserMessage (threadId turnId text : JavaString) :
    Work P Reply := do
  let thread ← requireThread threadId
  let itemId := userMessageItemId platform turnId
  let item := userItem itemId turnId text
  match (← get).item threadId itemId with
  | some row =>
    let stored ← parseItem platform row.payload
    if asText platform (path "turnId" (some (.object stored))) ≠ some turnId ∨
        asText platform (path "text" (some (.object stored))) ≠ some text then
      throw (conflict "user message identity was already used with different content")
    if row.firstSeq = 0 then throw .unchecked
    pure (.message threadId turnId row.firstSeq stored)
  | none =>
    let seq ← nextSequence thread.lastSeq
    upsertItem platform threadId item seq
    updateThread threadId seq thread.status (some turnId)
    pure (.message threadId turnId seq item)

/-- The identifier of the thread of an event. -/
def eventThreadId (event : TurnEvent) : Option JavaString :=
  asText platform (path "threadId" (some (.object event.params)))

/-- The identifier of the turn of an event. -/
def eventTurnId (event : TurnEvent) : Option JavaString :=
  let params := some (Json.object event.params)
  match asText platform (path "turnId" (path "turn" params)) with
  | some turnId =>
    if isBlank turnId then asText platform (path "turnId" (path "item" params)) else some turnId
  | none => asText platform (path "turnId" (path "item" params))

def itemFromEvent (event : TurnEvent) : Option ObjectNode :=
  match ObjectNode.get (java "item") event.params with
  | some (.object item) =>
    if isTextual (path "itemId" (some (.object item))) ∧
        isTextual (path "turnId" (some (.object item))) ∧
        isTextual (path "kind" (some (.object item))) then some item
    else none
  | _ => none

/-- The status and the active turn of a thread after an event. -/
def threadAfter (thread : ThreadSnapshot) (event : TurnEvent) :
    ThreadStatus × Option JavaString :=
  if event.method = "turn/started" then (.running, eventTurnId platform event)
  else if event.method = "turn/completed" then (.idle, none)
  else
    match itemFromEvent event with
    | some item =>
      if path "kind" (some (.object item)) = some (.string (java "approval")) then
        (if path "status" (some (.object item)) = some (.string (java "started")) then
            .waitingApproval
          else if thread.activeTurnId = none then .idle else .running, thread.activeTurnId)
      else (thread.status, thread.activeTurnId)
    | none => (thread.status, thread.activeTurnId)

/-- The body of `appendEvent`. -/
def appendEvent (threadId : JavaString) (event : TurnEvent) :
    Work P Reply := do
  let thread ← requireThread threadId
  let seq ← nextSequence thread.lastSeq
  match itemFromEvent event with
  | some item => upsertItem platform threadId item seq
  | none => pure ()
  updateThread threadId seq (threadAfter platform thread event).1
    (threadAfter platform thread event).2
  pure (.event { event with
    params := ObjectNode.set (java "seq") (.number (.integral seq)) event.params })

/-- The body of `recoverInterruptedThreads`; the table is there after the migrations. -/
def recoverInterruptedThreads : Work P Reply := do
  let db ← get
  set db.recover
  pure (.count (db.threads.filter fun thread =>
    thread.status = .running ∨ thread.status = .waitingApproval).length)

/-! ## Calls -/

inductive StoreCall
  | createThread (threadId workspaceId title : JavaString)
  | ensureThread (threadId workspaceId title : JavaString)
  | recordUserMessage (threadId turnId text : JavaString)
  | appendEvent (event : TurnEvent)
  | recoverInterruptedThreads

namespace StoreCall

variable (platform : Platform P)

/-- The checks of a method before its transaction. -/
def checked : StoreCall → Bool
  | .createThread threadId workspaceId title | .ensureThread threadId workspaceId title =>
    isIdentifier "thr_" threadId && isIdentifier "ws_" workspaceId && isText 512 title
  | .recordUserMessage threadId turnId text =>
    isIdentifier "thr_" threadId && isIdentifier "turn_" turnId && isText maxTextLength text
  | .appendEvent event =>
    (eventThreadId platform event).any (isIdentifier "thr_") &&
      (eventTurnId platform event).all fun turnId =>
        isBlank turnId || isIdentifier "turn_" turnId
  | .recoverInterruptedThreads => true

/-- The name of the transaction. -/
def operation : StoreCall → String
  | .createThread .. => "thread-create"
  | .ensureThread .. => "thread-ensure"
  | .recordUserMessage .. => "thread-user-item"
  | .appendEvent _ => "thread-event"
  | .recoverInterruptedThreads => "thread-recover"

/-- The body of the transaction. -/
def work : StoreCall → Work P Reply
  | .createThread threadId workspaceId title => Persistence.createThread threadId workspaceId title
  | .ensureThread threadId workspaceId title => Persistence.ensureThread threadId workspaceId title
  | .recordUserMessage threadId turnId text =>
    Persistence.recordUserMessage platform threadId turnId text
  | .appendEvent event =>
    Persistence.appendEvent platform ((eventThreadId platform event).getD []) event
  | .recoverInterruptedThreads => Persistence.recoverInterruptedThreads

/-- A call, or a failure on its way (in the writer, in a statement or in the commit), after which
the transaction is rolled back. -/
def attempt (failure : Option Failure) (call : StoreCall) (db : Database P) :
    Except Failure Reply × Database P :=
  if call.checked platform = false then (.error .unchecked, db)
  else
    match failure with
    | some failure => (.error failure, db)
    | none =>
      match runFrom (call.work platform) db with
      | (.ok reply, db') => (.ok reply, db')
      | (.error failure, _) => (.error failure, db)

/-- The database after some calls, each with the failure on its way, if there is one. -/
def after (db : Database P) (calls : List (StoreCall × Option Failure)) : Database P :=
  calls.foldl (fun db call => (attempt platform call.2 call.1 db).2) db

end StoreCall

end JaDesktop.Persistence
