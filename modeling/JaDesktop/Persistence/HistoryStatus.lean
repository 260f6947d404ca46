import JaDesktop.Persistence.HistorySequences

/-!
# Status and active turn of a thread

A thread is in a turn exactly when its row names one, and this turn has been started and not
completed: this is what a snapshot of a thread requires.  Five methods write the two columns.
`agreesThroughout_iff` says after which calls they agree with each other and with the stored events.
-/

namespace JaDesktop.Persistence

open Sidecar (JsonNode ObjectNode TurnEvent java isBlank)

variable {P : Type} {platform : Platform P} {db db' : Database P} {threadId : JavaString}

/-! ## Calls that store something -/

/-- A new message is stored. -/
structure Inserts (platform : Platform P) (db : Database P) (threadId turnId text : JavaString)
    (thread : ThreadSnapshot) : Prop where
  checked : (StoreCall.recordUserMessage threadId turnId text).checked platform = true
  found : db.thread threadId = some thread
  notLast : thread.lastSeq ≠ longMax
  new : db.item threadId (userMessageItemId platform turnId) = none
  fits : platform.length (platform.write (userItem (userMessageItemId platform turnId) turnId text))
    ≤ maxTextLength

/-- An event is stored. -/
structure Appends (platform : Platform P) (db : Database P) (threadId : JavaString)
    (event : TurnEvent) (thread : ThreadSnapshot) : Prop where
  checked : (StoreCall.appendEvent event).checked platform = true
  named : eventThreadId platform event = some threadId
  found : db.thread threadId = some thread
  notLast : thread.lastSeq ≠ longMax
  fits : ∀ item ∈ itemFromEvent event, platform.length (platform.write item) ≤ maxTextLength

variable {seq : ℕ} {turnId : JavaString} {thread : ThreadSnapshot} {event : TurnEvent}
  {row : Option (ItemRow P)} {call : StoreCall}

lemma runFrom_upsertItem {item : ObjectNode} {itemId kind : JavaString}
    (hitem : asText platform (path "itemId" (some (.object item))) = some itemId)
    (hturn : asText platform (path "turnId" (some (.object item))) = some turnId)
    (hkind : asText platform (path "kind" (some (.object item))) = some kind)
    (hfits : platform.length (platform.write item) ≤ maxTextLength) (hpos : seq ≠ 0)
    (hfirst : ∀ row ∈ db.item threadId itemId, row.firstSeq ≤ seq) :
    ∃ db', runFrom (upsertItem platform threadId item seq) db = (.ok (), db') ∧
      db'.threads = db.threads := by
  refine ⟨db.putItem ⟨threadId, itemId, turnId, kind, seq, seq, platform.write item⟩, ?_, rfl⟩
  unfold upsertItem
  rw [hitem, hturn, hkind]
  dsimp only
  rw [runFrom_guard_ok]
  refine ⟨Nat.not_lt_of_le hfits, ?_⟩
  rw [runFrom_bind, runFrom_get]
  dsimp only
  have hguard : ¬ (seq = 0 ∨
      (db.item threadId itemId).any (fun row => decide (seq < row.firstSeq)) = true) := by
    rintro (hzero | hany)
    · exact hpos hzero
    · obtain ⟨row, hrow, hlt⟩ := Option.any_eq_true .. |>.mp hany
      exact absurd (hfirst row hrow) (Nat.not_le_of_lt (of_decide_eq_true hlt))
  rw [if_neg hguard]
  rfl

lemma runFrom_updateThread (hkeyed : Table.Keyed ThreadSnapshot.threadId db.threads)
    (hthread : db.thread threadId = some thread) (seq : ℕ) (status : ThreadStatus)
    (active : Option JavaString) :
    ∃ db', runFrom (updateThread threadId seq status active) db = (.ok (), db') := by
  have hone : (db.threads.filter fun thread => thread.threadId = threadId).length = 1 := by
    rw [Table.length_filter_key hkeyed, show Table.find _ _ _ = some thread from hthread]
    rfl
  refine ⟨db.setThread threadId seq status (active.filter fun turnId => !isBlank turnId), ?_⟩
  rw [updateThread, runFrom_bind, runFrom_get]
  dsimp only
  rw [runFrom_bind, runFrom_set]
  dsimp only
  rw [if_neg (by simpa using hone)]
  rfl

lemma keyed_of_threads (h : Sequenced db) (hthreads : db'.threads = db.threads) :
    Table.Keyed ThreadSnapshot.threadId db'.threads := by
  rw [hthreads]
  exact h.threads

lemma thread_of_threads (hthreads : db'.threads = db.threads) (id : JavaString) :
    db'.thread id = db.thread id := by
  rw [Database.thread, hthreads]
  rfl

lemma Inserts.runs {text : JavaString} (hdb : Sequenced db)
    (h : Inserts platform db threadId turnId text thread) :
    ∃ reply db', runFrom (recordUserMessage platform threadId turnId text) db =
      (.ok reply, db') := by
  have hnone : ∀ row ∈ db.item threadId (userMessageItemId platform turnId),
      row.firstSeq ≤ thread.lastSeq + 1 := by
    rw [h.new]
    simp
  obtain ⟨db₁, hupsert, hthreads⟩ := runFrom_upsertItem
    (path_textFields platform "itemId" _) (path_textFields platform "turnId" _)
    (path_textFields platform "kind" _) h.fits (Nat.succ_ne_zero _) hnone
  obtain ⟨db₂, hupdate⟩ := runFrom_updateThread (keyed_of_threads hdb hthreads)
    ((thread_of_threads hthreads threadId).trans h.found) (thread.lastSeq + 1) thread.status
    (some turnId)
  refine ⟨.message threadId turnId (thread.lastSeq + 1)
    (userItem (userMessageItemId platform turnId) turnId text), db₂, ?_⟩
  refine requireThread_bind.mpr ⟨thread, h.found, ?_⟩
  rw [runFrom_bind, runFrom_get]
  dsimp only
  rw [h.new]
  refine nextSequence_bind.mpr ⟨h.notLast, runFrom_bind_ok.mpr ⟨(), db₁, hupsert, ?_⟩⟩
  exact runFrom_bind_ok.mpr ⟨(), db₂, hupdate, rfl⟩

lemma asText_of_isTextual {node : Option JsonNode} (h : isTextual node = true) :
    ∃ text, asText platform node = some text := by
  unfold isTextual at h
  split at h
  · next text => exact ⟨text, rfl⟩
  · cases h

lemma Appends.runs (hdb : Sequenced db) (h : Appends platform db threadId event thread) :
    ∃ reply db', runFrom (appendEvent platform threadId event) db = (.ok reply, db') := by
  have hlast : db.lastSeqOf threadId = thread.lastSeq := lastSeqOf_of_thread h.found
  -- The row of the thread is written after the item, if there is one.
  have hrest : ∀ db₁ : Database P, db₁.threads = db.threads → ∃ db₂,
      runFrom (updateThread threadId (thread.lastSeq + 1) (threadAfter platform thread event).1
        (threadAfter platform thread event).2) db₁ = (.ok (), db₂) := fun db₁ hthreads =>
    runFrom_updateThread (keyed_of_threads hdb hthreads)
      ((thread_of_threads hthreads threadId).trans h.found) _ _ _
  let reply := Reply.event { event with
    params := ObjectNode.set (java "seq") (.number (.integral (thread.lastSeq + 1 : ℕ)))
      event.params }
  cases hevent : itemFromEvent event with
  | none =>
    obtain ⟨db₂, hupdate⟩ := hrest db rfl
    refine ⟨reply, db₂, ?_⟩
    refine requireThread_bind.mpr ⟨thread, h.found, nextSequence_bind.mpr ⟨h.notLast, ?_⟩⟩
    rw [hevent]
    exact runFrom_bind_ok.mpr ⟨(), db₂, hupdate, rfl⟩
  | some item =>
    have hfields := hevent
    unfold itemFromEvent at hfields
    split at hfields
    · next found hfound =>
      split_ifs at hfields with htexts
      obtain rfl := Option.some.inj hfields
      obtain ⟨itemId, hitemId⟩ := @asText_of_isTextual _ platform _ htexts.1
      obtain ⟨turnId, hturnId⟩ := @asText_of_isTextual _ platform _ htexts.2.1
      obtain ⟨kind, hkind⟩ := @asText_of_isTextual _ platform _ htexts.2.2
      have hfirst : ∀ row ∈ db.item threadId itemId, row.firstSeq ≤ thread.lastSeq + 1 := by
        intro row hrow
        have hmem := Table.mem_of_find hrow
        have hkey : row.threadId = threadId := congrArg Prod.fst (Table.key_of_find hrow)
        obtain ⟨-, hle, hle'⟩ := hdb.bounds row hmem
        rw [hkey, hlast] at hle'
        exact (hle.trans hle').trans (Nat.le_succ _)
      obtain ⟨db₁, hupsert, hthreads⟩ := runFrom_upsertItem hitemId hturnId hkind
        (h.fits found hevent) (Nat.succ_ne_zero _) hfirst
      obtain ⟨db₂, hupdate⟩ := hrest db₁ hthreads
      refine ⟨reply, db₂, ?_⟩
      refine requireThread_bind.mpr ⟨thread, h.found, nextSequence_bind.mpr ⟨h.notLast, ?_⟩⟩
      rw [hevent]
      refine runFrom_bind_ok.mpr ⟨(), db₁, hupsert, ?_⟩
      exact runFrom_bind_ok.mpr ⟨(), db₂, hupdate, rfl⟩
    · cases hfields

/-! ## The stored events -/

/-- A database with the events that have been stored in it, oldest first. -/
structure Journal (P : Type) where
  db : Database P
  events : List TurnEvent

/-- The event that a call brings, if it does. -/
def StoreCall.events : StoreCall → List TurnEvent
  | .appendEvent event => [event]
  | .createThread .. | .ensureThread .. | .recordUserMessage .. | .recoverInterruptedThreads => []

namespace Journal

variable (platform)

/-- A database without threads. -/
def fresh (workspaces : List WorkspaceSnapshot) : Journal P := ⟨.fresh workspaces, []⟩

def next (journal : Journal P) (call : StoreCall × Option Failure) : Journal P where
  db := (call.1.attempt platform call.2 journal.db).2
  events :=
    match (call.1.attempt platform call.2 journal.db).1 with
    | .ok _ => journal.events ++ call.1.events
    | .error _ => journal.events

/-- The journal after some calls. -/
def after (journal : Journal P) (calls : List (StoreCall × Option Failure)) : Journal P :=
  calls.foldl (next platform) journal

end Journal

/-- An event of a turn has been stored. -/
def Stored (platform : Platform P) (events : List TurnEvent) (method : String)
    (threadId turnId : JavaString) : Prop :=
  ∃ event ∈ events, event.method = method ∧ eventThreadId platform event = some threadId ∧
    eventTurnId platform event = some turnId

/-- The turn has been started and not completed. -/
def Open (platform : Platform P) (events : List TurnEvent) (threadId turnId : JavaString) : Prop :=
  Stored platform events "turn/started" threadId turnId ∧
    ¬ Stored platform events "turn/completed" threadId turnId

def ThreadStatus.active (status : ThreadStatus) : Prop :=
  status = .running ∨ status = .waitingApproval

/-- The two columns of a row. -/
structure RowAgrees (platform : Platform P) (events : List TurnEvent) (threadId : JavaString)
    (status : ThreadStatus) (activeTurnId : Option JavaString) : Prop where
  active_iff : activeTurnId ≠ none ↔ status.active
  opened : ∀ turnId, activeTurnId = some turnId → Open platform events threadId turnId

/-- **Status and active turn agree** in every thread. -/
def Agrees (platform : Platform P) (journal : Journal P) : Prop :=
  ∀ id thread, journal.db.thread id = some thread →
    RowAgrees platform journal.events id thread.status thread.activeTurnId

/-- An event with an approval that is waited for. -/
def asksApproval (event : TurnEvent) : Prop :=
  ∃ item, itemFromEvent event = some item ∧
    path "kind" (some (.object item)) = some (.string (java "approval")) ∧
    path "status" (some (.object item)) = some (.string (java "started"))

/-- The conditions on an event, which is stored in the thread of a row. -/
def EventSuits (platform : Platform P) (events : List TurnEvent) (threadId : JavaString)
    (event : TurnEvent) (thread : ThreadSnapshot) : Prop :=
  if event.method = "turn/started" then
    ∃ turnId, eventTurnId platform event = some turnId ∧ isBlank turnId = false ∧
      ¬ Stored platform events "turn/completed" threadId turnId
  else if event.method = "turn/completed" then True
  else asksApproval event → thread.activeTurnId ≠ none

/-- The conditions on a call: a message is new only in an open turn of an active thread, an event
suits the thread. -/
def Suits (platform : Platform P) (journal : Journal P) : StoreCall × Option Failure → Prop
  | (.recordUserMessage threadId turnId text, none) =>
    ∀ thread, Inserts platform journal.db threadId turnId text thread →
      thread.status.active ∧ Open platform journal.events threadId turnId
  | (.appendEvent event, none) =>
    ∀ threadId thread, Appends platform journal.db threadId event thread →
      EventSuits platform journal.events threadId event thread
  | _ => True

/-! ## One step -/

/-- What holds of every database: rows are sequenced, and no active turn is blank. -/
structure Based (db : Database P) : Prop where
  sequenced : Sequenced db
  named : ∀ id thread turnId, db.thread id = some thread → thread.activeTurnId = some turnId →
    isBlank turnId = false

variable {journal : Journal P} {events : List TurnEvent}

lemma filter_eq_self {active : Option JavaString}
    (h : ∀ turnId, active = some turnId → isBlank turnId = false) :
    active.filter (fun turnId => !isBlank turnId) = active := by
  cases active with
  | none => rfl
  | some turnId => simp [Option.filter, h turnId rfl]

lemma agrees_advance_iff (h : Agrees platform journal)
    (hthread : journal.db.thread threadId = some thread) {status : ThreadStatus}
    {active : Option JavaString} (hothers : ∀ id, id ≠ threadId → ∀ method turnId,
      Stored platform events method id turnId ↔ Stored platform journal.events method id turnId) :
    Agrees platform ⟨journal.db.advance threadId row seq status active, events⟩ ↔
      RowAgrees platform events threadId status
        (active.filter fun turnId => !isBlank turnId) := by
  constructor
  · intro hall
    refine hall threadId { thread with
      lastSeq := seq
      status := status
      activeTurnId := active.filter fun turnId => !isBlank turnId } ?_
    rw [thread_advance, hthread, Option.map_some, if_pos rfl]
  · intro hrow id other hother
    rw [thread_advance] at hother
    by_cases hid : id = threadId
    · rw [hid, hthread, Option.map_some, if_pos rfl] at hother
      obtain rfl := Option.some.inj hother
      rw [hid]
      exact hrow
    · obtain ⟨old, hold, heq⟩ := Option.map_eq_some_iff.mp hother
      rw [if_neg hid] at heq
      subst heq
      obtain ⟨hiff, hopen⟩ := h id old hold
      refine ⟨hiff, fun turnId hturn => ?_⟩
      obtain ⟨hstarted, hcompleted⟩ := hopen turnId hturn
      exact ⟨(hothers id hid _ _).mpr hstarted, fun hc => hcompleted ((hothers id hid _ _).mp hc)⟩

lemma stored_append {method : String} :
    Stored platform (events ++ [event]) method threadId turnId ↔
      Stored platform events method threadId turnId ∨ (event.method = method ∧
        eventThreadId platform event = some threadId ∧
        eventTurnId platform event = some turnId) := by
  simp [Stored, or_and_right, exists_or]

lemma stored_append_other (hevent : eventThreadId platform event = some threadId) (id : JavaString)
    (hid : id ≠ threadId) (method : String) (turnId : JavaString) :
    Stored platform (events ++ [event]) method id turnId ↔
      Stored platform events method id turnId := by
  rw [stored_append]
  refine or_iff_left ?_
  rintro ⟨-, hsame, -⟩
  exact hid (Option.some.inj (hsame.symm.trans hevent))

/-- **An event keeps the agreement exactly when it suits.** -/
lemma agrees_appended_iff (h : Agrees platform journal) (hbased : Based journal.db)
    (hnamed : eventThreadId platform event = some threadId)
    (hthread : journal.db.thread threadId = some thread) :
    Agrees platform ⟨journal.db.advance threadId row seq (threadAfter platform thread event).1
        (threadAfter platform thread event).2, journal.events ++ [event]⟩ ↔
      EventSuits platform journal.events threadId event thread := by
  rw [agrees_advance_iff h hthread (stored_append_other hnamed)]
  obtain ⟨hiff, hopen⟩ := h threadId thread hthread
  have hfilter := filter_eq_self (hbased.named threadId thread · hthread)
  unfold threadAfter EventSuits
  by_cases hstarted : event.method = "turn/started"
  · simp only [hstarted, if_true]
    constructor
    · rintro ⟨hactive, hopened⟩
      obtain ⟨turnId, hturn⟩ := Option.ne_none_iff_exists'.mp (hactive.mpr (Or.inl rfl))
      obtain ⟨hevent, hblank⟩ := Option.filter_eq_some_iff.mp hturn
      refine ⟨turnId, hevent, by simpa using hblank, fun hcompleted => ?_⟩
      exact (hopened turnId hturn).2 (stored_append.mpr (Or.inl hcompleted))
    · rintro ⟨turnId, hturn, hblank, hcompleted⟩
      have hsome : (eventTurnId platform event).filter (fun turnId => !isBlank turnId) =
          some turnId := Option.filter_eq_some_iff.mpr ⟨hturn, by simp [hblank]⟩
      rw [hsome]
      refine ⟨⟨fun _ => Or.inl rfl, fun _ => by simp⟩, ?_⟩
      intro other hother
      obtain rfl := Option.some.inj hother
      refine ⟨stored_append.mpr (Or.inr ⟨hstarted, hnamed, hturn⟩), fun hc => ?_⟩
      rcases stored_append.mp hc with hold | ⟨hmethod, -⟩
      · exact hcompleted hold
      · exact absurd (hstarted.symm.trans hmethod) (by decide)
  by_cases hcompleted : event.method = "turn/completed"
  · simp only [hcompleted, if_true, if_neg (show "turn/completed" ≠ "turn/started" by decide),
      iff_true]
    exact ⟨by simp [ThreadStatus.active], by simp⟩
  -- The event does not say that a turn starts or ends.
  have hkept : ∀ status, RowAgrees platform (journal.events ++ [event]) threadId status
      thread.activeTurnId ↔ (thread.activeTurnId ≠ none ↔ status.active) := by
    refine fun status => ⟨fun hrow => hrow.active_iff, fun hsame => ⟨hsame, ?_⟩⟩
    intro turnId hturn
    obtain ⟨hwas, hnot⟩ := hopen turnId hturn
    refine ⟨stored_append.mpr (Or.inl hwas), fun hc => ?_⟩
    rcases stored_append.mp hc with hold | ⟨hmethod, -⟩
    · exact hnot hold
    · exact hcompleted hmethod
  simp only [if_neg hstarted, if_neg hcompleted]
  cases hitem : itemFromEvent event with
  | none =>
    dsimp only
    rw [hfilter, hkept]
    refine iff_of_true hiff ?_
    rintro ⟨item, hsome, -⟩
    rw [hitem] at hsome
    cases hsome
  | some item =>
    have hasks : asksApproval event ↔
        path "kind" (some (.object item)) = some (.string (java "approval")) ∧
          path "status" (some (.object item)) = some (.string (java "started")) := by
      simp [asksApproval, hitem]
    rw [hasks]
    dsimp only
    by_cases hkind : path "kind" (some (.object item)) = some (.string (java "approval"))
    · rw [if_pos hkind]
      dsimp only
      rw [hfilter, hkept]
      by_cases hwaits : path "status" (some (.object item)) = some (.string (java "started"))
      · rw [if_pos hwaits]
        simp [hkind, hwaits, ThreadStatus.active]
      · rw [if_neg hwaits]
        refine iff_of_true ?_ (fun hboth => absurd hboth.2 hwaits)
        split_ifs with hnone
        · simp [hnone, ThreadStatus.active]
        · simp [hnone, ThreadStatus.active]
    · rw [if_neg hkind]
      dsimp only
      rw [hfilter, hkept]
      exact iff_of_true hiff fun hboth => absurd hboth.1 hkind

/-- **A new message keeps the agreement exactly when its turn is open in an active thread.** -/
lemma agrees_recorded_iff (h : Agrees platform journal)
    (hthread : journal.db.thread threadId = some thread) (hturn : isBlank turnId = false) :
    Agrees platform ⟨journal.db.advance threadId row seq thread.status (some turnId),
        journal.events⟩ ↔
      thread.status.active ∧ Open platform journal.events threadId turnId := by
  rw [agrees_advance_iff h hthread (fun _ _ _ _ => Iff.rfl),
    show (some turnId).filter (fun turnId => !isBlank turnId) = some turnId by
      simp [Option.filter, hturn]]
  constructor
  · rintro ⟨hiff, hopened⟩
    exact ⟨hiff.mp (by simp), hopened turnId rfl⟩
  · rintro ⟨hactive, hopen⟩
    refine ⟨⟨fun _ => hactive, fun _ => by simp⟩, ?_⟩
    intro other hother
    obtain rfl := Option.some.inj hother
    exact hopen

lemma attempt_of_runs {reply : Reply} (hchecked : call.checked platform = true)
    (hruns : runFrom (call.work platform) db = (.ok reply, db')) :
    call.attempt platform none db = (.ok reply, db') := by
  unfold StoreCall.attempt
  rw [if_neg (by simp [hchecked])]
  dsimp only
  rw [hruns]

lemma isBlank_of_isIdentifier (h : isIdentifier "turn_" turnId = true) :
    isBlank turnId = false := by
  simp only [isIdentifier, Sidecar.matchesHeadTail, Bool.and_eq_true,
    List.isPrefixOf_iff_prefix] at h
  obtain ⟨rest, rfl⟩ := h.1
  have hhead : (java "turn_").all Sidecar.isWhitespace = false := by decide +kernel
  rw [isBlank, List.all_append, hhead, Bool.false_and]

lemma suits_of_error (hbased : Based journal.db) {failure : Option Failure} {e : Failure}
    (herror : (call.attempt platform failure journal.db).1 = .error e) :
    Suits platform journal (call, failure) := by
  cases failure with
  | some failure => cases call <;> exact trivial
  | none =>
    cases call with
    | createThread | ensureThread | recoverInterruptedThreads => exact trivial
    | recordUserMessage threadId turnId text =>
      intro thread hinserts
      obtain ⟨reply, db', hruns⟩ := hinserts.runs hbased.sequenced
      rw [attempt_of_runs hinserts.checked hruns] at herror
      cases herror
    | appendEvent event =>
      intro threadId thread happends
      obtain ⟨reply, db', hruns⟩ := happends.runs hbased.sequenced
      have hwork : runFrom ((StoreCall.appendEvent event).work platform) journal.db =
          (.ok reply, db') := by
        rw [← hruns, StoreCall.work, happends.named]
        rfl
      rw [attempt_of_runs happends.checked hwork] at herror
      cases herror

lemma named_of_checked (h : (StoreCall.appendEvent event).checked platform = true) :
    eventThreadId platform event = some ((eventThreadId platform event).getD []) := by
  simp only [StoreCall.checked, Bool.and_eq_true] at h
  obtain ⟨id, hsome, -⟩ := Option.any_eq_true .. |>.mp h.1
  rw [hsome]
  rfl

/-- **A call keeps the agreement exactly when it suits.** -/
theorem agrees_next_iff (hbased : Based journal.db) (h : Agrees platform journal)
    (call : StoreCall × Option Failure) :
    Agrees platform (journal.next platform call) ↔ Suits platform journal call := by
  obtain ⟨call, failure⟩ := call
  rcases attempt_cases platform failure call journal.db with
    ⟨reply, hreply, hchecked, heffect⟩ | ⟨⟨e, herror⟩, hsame⟩
  · cases failure with
    | some failure =>
      unfold StoreCall.attempt at hreply
      rw [if_neg (by simp [hchecked])] at hreply
      cases hreply
    | none =>
      have hnext : journal.next platform (call, none) =
          ⟨(call.attempt platform none journal.db).2, journal.events ++ call.events⟩ := by
        unfold Journal.next
        dsimp only
        rw [hreply]
      rw [hnext]
      clear hnext hreply
      generalize (call.attempt platform none journal.db).2 = db' at heffect ⊢
      cases heffect with
      | @created id workspaceId title call hcall hnew reply =>
        have hagrees : Agrees platform
            ⟨journal.db.addThread (newThread id workspaceId title), journal.events ++ []⟩ := by
          rw [List.append_nil]
          intro other thread hthread
          rw [thread_addThread hnew] at hthread
          split_ifs at hthread with hid
          · obtain rfl := Option.some.inj hthread
            exact ⟨by simp [newThread, ThreadStatus.active], by simp [newThread]⟩
          · exact h other thread hthread
        rcases hcall with rfl | rfl
        · exact iff_of_true hagrees trivial
        · exact iff_of_true hagrees trivial
      | existing =>
        rw [StoreCall.events, List.append_nil]
        exact iff_of_true h trivial
      | @recorded id turnId text thread row hthread hmax hnew hrow =>
        have hturn : isBlank turnId = false := by
          simp only [StoreCall.checked, Bool.and_eq_true] at hchecked
          exact isBlank_of_isIdentifier hchecked.1.2
        rw [StoreCall.events, List.append_nil, agrees_recorded_iff h hthread hturn]
        constructor
        · intro hboth other hinserts
          obtain rfl := Option.some.inj (hthread.symm.trans hinserts.found)
          exact hboth
        · intro hsuits
          exact hsuits thread ⟨hchecked, hthread, hmax, hnew, hrow.fits⟩
      | repeated hthread hitem =>
        rw [StoreCall.events, List.append_nil]
        refine iff_of_true h fun thread hinserts => ?_
        rw [hinserts.new] at hitem
        cases hitem
      | @appended event id thread row event' hid hthread hmax hrow hnone hevent =>
        have hnamed : eventThreadId platform event = some id := by
          rw [hid]
          exact named_of_checked hchecked
        rw [StoreCall.events, agrees_appended_iff h hbased hnamed hthread]
        constructor
        · intro hsuits other thread' happends
          obtain rfl := Option.some.inj (hnamed.symm.trans happends.named)
          obtain rfl := Option.some.inj (hthread.symm.trans happends.found)
          exact hsuits
        · intro hsuits
          refine hsuits id thread ⟨hchecked, hnamed, hthread, hmax, fun item hitem => ?_⟩
          cases row with
          | none =>
            rw [hnone rfl] at hitem
            cases hitem
          | some row =>
            obtain ⟨item', hitem', hrowOf⟩ := hrow row rfl
            rw [hitem'] at hitem
            obtain rfl := Option.some.inj hitem
            exact hrowOf.fits
      | recovered rows =>
        rw [StoreCall.events, List.append_nil]
        refine iff_of_true ?_ trivial
        intro id thread hthread
        rw [thread_recover] at hthread
        obtain ⟨old, hold, heq⟩ := Option.map_eq_some_iff.mp hthread
        split_ifs at heq
        · subst heq
          exact ⟨by simp [ThreadStatus.active], by simp⟩
        · subst heq
          exact h id old hold
  · have hnext : journal.next platform (call, failure) = journal := by
      unfold Journal.next
      dsimp only
      rw [hsame, herror]
    rw [hnext]
    exact iff_of_true h (suits_of_error hbased herror)

/-! ## Runs -/

lemma Based.advance (h : Based db) {status : ThreadStatus} {active : Option JavaString}
    (hsequenced : Sequenced (db.advance threadId row seq status active)) :
    Based (db.advance threadId row seq status active) := by
  refine ⟨hsequenced, ?_⟩
  intro id thread turnId hthread hturn
  rw [thread_advance] at hthread
  obtain ⟨old, hold, heq⟩ := Option.map_eq_some_iff.mp hthread
  split_ifs at heq
  · subst heq
    simpa using (Option.filter_eq_some_iff.mp hturn).2
  · subst heq
    exact h.named id old turnId hold hturn

lemma Based.effect {reply : Reply} (h : Based db) (heffect : Effect platform db call reply db') :
    Based db' := by
  have hsequenced := h.sequenced.effect heffect
  cases heffect with
  | created hcall hnew =>
    refine ⟨hsequenced, ?_⟩
    intro id thread turnId hthread hturn
    rw [thread_addThread hnew] at hthread
    split_ifs at hthread
    · obtain rfl := Option.some.inj hthread
      cases hturn
    · exact h.named id thread turnId hthread hturn
  | existing | repeated => exact h
  | recorded | appended => exact h.advance hsequenced
  | recovered =>
    refine ⟨hsequenced, ?_⟩
    intro id thread turnId hthread hturn
    rw [thread_recover] at hthread
    obtain ⟨old, hold, heq⟩ := Option.map_eq_some_iff.mp hthread
    split_ifs at heq
    · subst heq
      cases hturn
    · subst heq
      exact h.named id old turnId hold hturn

lemma based_next (h : Based journal.db) (call : StoreCall × Option Failure) :
    Based (journal.next platform call).db := by
  change Based (call.1.attempt platform call.2 journal.db).2
  rcases attempt_cases platform call.2 call.1 journal.db with
    ⟨reply, -, -, heffect⟩ | ⟨-, hsame⟩
  · exact h.effect heffect
  · rw [hsame]
    exact h

lemma based_after (platform : Platform P) (workspaces : List WorkspaceSnapshot)
    (calls : List (StoreCall × Option Failure)) :
    Based ((Journal.fresh workspaces).after platform calls).db := by
  induction calls using List.reverseRecOn with
  | nil =>
    refine ⟨sequenced_fresh workspaces, ?_⟩
    intro id thread turnId hthread
    cases hthread
  | append_singleton calls call ih =>
    rw [Journal.after, List.foldl_append]
    exact based_next ih call

/-- No thread has an active turn. -/
def NoActive (db : Database P) : Prop :=
  ∀ id thread, db.thread id = some thread → thread.activeTurnId = none

lemma noActive_recover (h : Agrees platform journal) :
    NoActive journal.db.recover := by
  intro id thread hthread
  rw [thread_recover] at hthread
  obtain ⟨old, hold, heq⟩ := Option.map_eq_some_iff.mp hthread
  split_ifs at heq with hactive
  · rw [← heq]
  · rw [← heq]
    by_contra hsome
    exact hactive ((h id old hold).active_iff.mp hsome)

/-- **The columns agree in every state of a run**, and recovering leaves no active turn. -/
def AgreesThroughout (platform : Platform P) (workspaces : List WorkspaceSnapshot)
    (calls : List (StoreCall × Option Failure)) : Prop :=
  ∀ pre, pre <+: calls → Agrees platform ((Journal.fresh workspaces).after platform pre) ∧
    (∀ before, pre = before ++ [(.recoverInterruptedThreads, none)] →
      NoActive ((Journal.fresh workspaces).after platform pre).db)

/-- **The columns agree throughout exactly when every call suits the state it is made in.** -/
theorem agreesThroughout_iff (platform : Platform P) (workspaces : List WorkspaceSnapshot)
    (calls : List (StoreCall × Option Failure)) :
    AgreesThroughout platform workspaces calls ↔ ∀ pre call, pre ++ [call] <+: calls →
      Suits platform ((Journal.fresh workspaces).after platform pre) call := by
  have hfresh : Agrees platform (Journal.fresh workspaces) := by
    intro id thread hthread
    cases hthread
  have hstep : ∀ (journal : Journal P) call, Agrees platform journal ∧ Based journal.db →
      (Agrees platform (journal.next platform call) ∧ Based (journal.next platform call).db ↔
        Suits platform journal call) := by
    intro journal call h
    rw [← agrees_next_iff h.2 h.1 call]
    exact and_iff_left (based_next h.2 call)
  refine Iff.trans ?_ (Run.foldl_invariant_iff (I := fun j => Agrees platform j ∧ Based j.db)
    ⟨hfresh, based_after platform workspaces []⟩ hstep)
  constructor
  · intro h pre hpre
    exact ⟨(h pre hpre).1, based_after platform workspaces pre⟩
  · intro h pre hpre
    refine ⟨(h pre hpre).1, ?_⟩
    rintro before rfl
    have hbefore := (h before ((List.prefix_append _ _).trans hpre)).1
    have hdb : ((Journal.fresh workspaces).after platform
        (before ++ [(.recoverInterruptedThreads, none)])).db =
          ((Journal.fresh workspaces).after platform before).db.recover := by
      rw [Journal.after, List.foldl_append]
      rfl
    rw [hdb]
    exact noActive_recover hbefore

/-- A new thread, and the message of a turn that has not been started. -/
def firstMessage : List (StoreCall × Option Failure) :=
  [(.ensureThread (java "thr_a") (java "ws_a") (java "Thread"), none),
    (.recordUserMessage (java "thr_a") (java "turn_a") (java "hi"), none)]

/-- The first message of a thread gives an idle thread an active turn. -/
theorem first_message_activates_idle_thread :
    ¬ AgreesThroughout treePlatform [workspaceA] firstMessage := by
  intro h
  obtain ⟨hagrees, -⟩ := h firstMessage (List.prefix_refl _)
  have hrow : (((Journal.fresh [workspaceA]).after treePlatform firstMessage).db.thread
      (java "thr_a")).map (fun thread => (thread.status, thread.activeTurnId)) =
        some (.idle, some (java "turn_a")) := by
    decide +kernel
  obtain ⟨thread, hthread, hcolumns⟩ := Option.map_eq_some_iff.mp hrow
  obtain ⟨hstatus, hactive⟩ := Prod.mk.inj hcolumns
  have hiff := (hagrees (java "thr_a") thread hthread).active_iff
  rw [hstatus, hactive] at hiff
  simp [ThreadStatus.active] at hiff

end JaDesktop.Persistence
