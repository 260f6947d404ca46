import Mathlib.Data.List.Infix
import JaDesktop.Lib.Runs
import JaDesktop.Lib.Triples

/-!
# Transactions of the SQLite owner

`SqlitePersistence` has one JDBC connection, which a single writer thread uses for one `read` or
`commit` after the other.  A body sees the connection, changes the content and returns or throws.
What the driver answers to each of its calls, and whether the caller still waits when the body has
ended, is given with a call.

A `read` leaves the connection in auto-commit mode, where every statement is durable at once.  A
`commit` turns auto-commit off, and on again, and must undo what a failed body has done.
-/

namespace JaDesktop.Persistence

/-- `PersistenceException.Code`. -/
inductive Code
  | invalidConfiguration
  | instanceLocked
  | closed
  | writerCloseUnconfirmed
  | queueFull
  | queueTimeout
  | io
  | transaction
  | migration
  | migrationChecksum
  | schemaTooNew
  | databaseCorrupt
  | casConflict
  | notFound
  | invalidState
deriving DecidableEq

structure PersistenceException where
  code : Code
  message : String
deriving DecidableEq

/-- What can be thrown. -/
inductive Failure
  /-- `SQLException` -/
  | sql
  | persistence (exception : PersistenceException)
  /-- any other unchecked exception -/
  | unchecked
deriving DecidableEq

/-- `SqlWork`: a body that works on a content `D` and returns a `T`. -/
abbrev SqlWork (D T : Type) := ExceptT Failure (StateM D) T

/-! ## The connection -/

/-- What is durable and, with auto-commit off, what the statements since have made of it. -/
structure Connection (D : Type) where
  durable : D
  transaction : Option D
deriving DecidableEq

variable {D T : Type}

namespace Connection

/-- A connection in auto-commit mode. -/
def auto (durable : D) : Connection D := ⟨durable, none⟩

variable (c : Connection D)

/-- What the next statement sees. -/
def content : D := c.transaction.getD c.durable

def getAutoCommit : Bool := c.transaction.isNone

/-- `setAutoCommit(false)` -/
def begin : Connection D := ⟨c.durable, some c.content⟩

def commit : Connection D := ⟨c.content, some c.content⟩

def rollback : Connection D := ⟨c.durable, some c.durable⟩

/-- `setAutoCommit(true)` commits what is open. -/
def setAutoCommit : Connection D := ⟨c.content, none⟩

@[simp] lemma content_auto (durable : D) : (auto durable).content = durable := rfl

@[simp] lemma getAutoCommit_auto (durable : D) : (auto durable).getAutoCommit = true := rfl

@[simp] lemma content_begin : c.begin.content = c.content := rfl

end Connection

/-- `work.apply(connection)` -/
def SqlWork.apply (work : SqlWork D T) (c : Connection D) : Except Failure T × Connection D :=
  match c.transaction with
  | none => ((work.run.run c.durable).1, ⟨(work.run.run c.durable).2, none⟩)
  | some content => ((runFrom work content).1, ⟨c.durable, some (runFrom work content).2⟩)

/-! ## Reads and transactions -/

/-- Which calls to the driver succeed during a transaction; a call that fails changes nothing and
throws a `SQLException`. -/
structure Jdbc where
  /-- `setAutoCommit(false)` -/
  begins : Bool
  commits : Bool
  /-- `setAutoCommit(true)` after the commit -/
  finishes : Bool
  rollsBack : Bool
  /-- `setAutoCommit(true)` in the cleanup -/
  restores : Bool
deriving DecidableEq

/-- A driver that does all it is asked to. -/
def Jdbc.willing : Jdbc := ⟨true, true, true, true, true⟩

def rollbackQuietly (jdbc : Jdbc) (c : Connection D) : Connection D :=
  if c.getAutoCommit = false ∧ jdbc.rollsBack then c.rollback else c

def restoreAutoCommitQuietly (jdbc : Jdbc) (c : Connection D) : Connection D :=
  if jdbc.restores then c.setAutoCommit else c

/-- The body of `read`. -/
def readWork (work : SqlWork D T) (c : Connection D) : Except Failure T × Connection D :=
  match work.apply c with
  | (.error .sql, c) => (.error (.persistence ⟨.transaction, "SQLite read failed"⟩), c)
  | result => result

/-- The clauses that catch a `PersistenceException` and a `SQLException`. -/
def recover (jdbc : Jdbc) (exception : PersistenceException) (c : Connection D) :
    Except Failure T × Connection D :=
  (.error (.persistence exception), restoreAutoCommitQuietly jdbc (rollbackQuietly jdbc c))

/-- The body of `transaction`. -/
def transactionWork (operation : String) (jdbc : Jdbc) (work : SqlWork D T) (c : Connection D) :
    Except Failure T × Connection D :=
  let failed : PersistenceException :=
    ⟨.transaction, "SQLite transaction failed for " ++ operation⟩
  if jdbc.begins = false then recover jdbc failed c
  else
    match work.apply c.begin with
    | (.error .sql, c) => recover jdbc failed c
    | (.error (.persistence exception), c) => recover jdbc exception c
    -- No clause catches it.
    | (.error .unchecked, c) => (.error .unchecked, c)
    | (.ok result, c) =>
      if jdbc.commits = false then recover jdbc failed c
      else if jdbc.finishes = false then recover jdbc failed c.commit
      else (.ok result, c.commit.setAutoCommit)

/-! ## Calls -/

/-- How `SingleWriter.execute` ends for its caller. -/
inductive Delivery
  /-- the work is not run: the owner is closed, the queue is full, or the caller has given up
  before it was its turn -/
  | refused (exception : PersistenceException)
  | delivered
  /-- the caller has given up while the work was running -/
  | abandoned (exception : PersistenceException)
deriving DecidableEq

def execute (delivery : Delivery) (work : Connection D → Except Failure T × Connection D)
    (c : Connection D) : Except Failure T × Connection D :=
  match delivery with
  | .refused exception => (.error (.persistence exception), c)
  | .delivered => work c
  | .abandoned exception => (.error (.persistence exception), (work c).2)

/-- A call of the owner. -/
inductive Call (D T : Type)
  | read (delivery : Delivery) (work : SqlWork D T)
  | commit (delivery : Delivery) (operation : String) (jdbc : Jdbc) (work : SqlWork D T)

namespace Call

def run : Call D T → Connection D → Except Failure T × Connection D
  | .read delivery work => execute delivery (readWork work)
  | .commit delivery operation jdbc work => execute delivery (transactionWork operation jdbc work)

/-- The connection after some calls. -/
def after (c : Connection D) (calls : List (Call D T)) : Connection D :=
  calls.foldl (fun c call => (call.run c).2) c

def Throws (call : Call D T) (c : Connection D) : Prop := ∃ failure, (call.run c).1 = .error failure

/-- **No call that throws leaves a trace**: the content is as it was before it, the connection is in
auto-commit mode, and what is durable later does not depend on it. -/
def LeavesNoTrace (durable : D) (calls : List (Call D T)) : Prop :=
  ∀ pre call post, calls = pre ++ call :: post → call.Throws (after (.auto durable) pre) →
    (after (.auto durable) (pre ++ [call])).content = (after (.auto durable) pre).content ∧
      (after (.auto durable) (pre ++ [call])).getAutoCommit = true ∧
      ∀ later, later <+: post → (after (.auto durable) (pre ++ call :: later)).durable =
        (after (.auto durable) (pre ++ later)).durable

/-- The conditions under which a call that throws is undone, when it is made on a content. -/
def Undone (content : D) : Call D T → Prop
  | .read delivery work =>
    match delivery with
    | .refused _ => True
    -- The statements of a read are durable at once.
    | .delivered => (∃ failure, (runFrom work content).1 = .error failure) →
      (runFrom work content).2 = content
    | .abandoned _ => (runFrom work content).2 = content
  | .commit delivery _ jdbc work =>
    match delivery, jdbc.begins with
    | .refused _, _ | _, false => True
    | delivery, true =>
      match (runFrom work content).1 with
      | .error .unchecked => False
      | .error _ => jdbc.restores = true ∧
        (jdbc.rollsBack = true ∨ (runFrom work content).2 = content)
      | .ok _ =>
        if jdbc.commits = false then
          jdbc.restores = true ∧ (jdbc.rollsBack = true ∨ (runFrom work content).2 = content)
        else if jdbc.finishes = false then
          jdbc.restores = true ∧ (runFrom work content).2 = content
        else delivery ≠ .delivered → (runFrom work content).2 = content

/-! ## What one call leaves -/

variable {call : Call D T} {durable : D} {jdbc : Jdbc} {work : SqlWork D T}

lemma apply_auto (work : SqlWork D T) (durable : D) :
    work.apply (.auto durable) = ((runFrom work durable).1, .auto (runFrom work durable).2) := rfl

lemma apply_begin (work : SqlWork D T) (durable : D) :
    work.apply (Connection.auto durable).begin =
      ((runFrom work durable).1, ⟨durable, some (runFrom work durable).2⟩) := rfl

/-- The cleanup of an open transaction undoes it when the rollback and the restoring succeed. -/
lemma recover_open_iff (exception : PersistenceException) (content : D) :
    (recover (T := T) jdbc exception ⟨durable, some content⟩).2 = .auto durable ↔
      jdbc.restores = true ∧ (jdbc.rollsBack = true ∨ content = durable) := by
  unfold recover rollbackQuietly restoreAutoCommitQuietly
  cases jdbc.restores with
  | false =>
    -- The transaction stays open.
    cases jdbc.rollsBack <;> simp [Connection.getAutoCommit, Connection.rollback, Connection.auto]
  | true =>
    cases jdbc.rollsBack <;>
      simp [Connection.getAutoCommit, Connection.rollback, Connection.auto,
        Connection.setAutoCommit, Connection.content]

lemma recover_auto (exception : PersistenceException) :
    (recover (T := T) jdbc exception (.auto durable)).2 = .auto durable := by
  unfold recover rollbackQuietly restoreAutoCommitQuietly
  cases jdbc.restores <;>
    simp [Connection.getAutoCommit, Connection.setAutoCommit, Connection.auto, Connection.content]

lemma recover_commit_iff (exception : PersistenceException) (content : D) :
    (recover (T := T) jdbc exception (Connection.mk durable (some content)).commit).2 =
      .auto durable ↔ jdbc.restores = true ∧ content = durable := by
  have hcommit : (Connection.mk durable (some content)).commit = ⟨content, some content⟩ := rfl
  rw [hcommit]
  unfold recover rollbackQuietly restoreAutoCommitQuietly
  cases jdbc.restores <;> cases jdbc.rollsBack <;>
    simp [Connection.getAutoCommit, Connection.rollback, Connection.auto,
      Connection.setAutoCommit, Connection.content]

lemma readWork_auto (work : SqlWork D T) (durable : D) :
    (readWork work (.auto durable)).2 = .auto (runFrom work durable).2 ∧
      ((∃ failure, (readWork work (.auto durable)).1 = .error failure) ↔
        ∃ failure, (runFrom work durable).1 = .error failure) := by
  unfold readWork
  rw [apply_auto]
  cases (runFrom work durable).1 with
  | ok result => simp
  | error failure => cases failure <;> simp

/-- What a call leaves, from auto-commit mode. -/
structure LeavesAsSaid (call : Call D T) (durable : D) : Prop where
  returns : ¬ call.Throws (.auto durable) → ∃ content, (call.run (.auto durable)).2 = .auto content
  undone : call.Undone durable ↔
    (call.Throws (.auto durable) → (call.run (.auto durable)).2 = .auto durable)

lemma auto_inj {content : D} : Connection.auto content = .auto durable ↔ content = durable := by
  simp [Connection.auto]

lemma eq_auto_of_getAutoCommit {c : Connection D} (h : c.getAutoCommit = true) :
    c = .auto c.content := by
  obtain ⟨d, transaction⟩ := c
  cases transaction with
  | none => rfl
  | some content => cases h

lemma leavesAsSaid_read (delivery : Delivery) (work : SqlWork D T) (durable : D) :
    LeavesAsSaid (.read delivery work) durable := by
  obtain ⟨hcontent, hthrows⟩ := readWork_auto work durable
  cases delivery with
  | refused exception => exact ⟨fun _ => ⟨durable, rfl⟩, by simp [Undone, run, execute]⟩
  | delivered =>
    refine ⟨fun _ => ⟨_, hcontent⟩, ?_⟩
    simp only [Undone, Throws, run, execute, hcontent, hthrows, auto_inj]
  | abandoned exception =>
    refine ⟨fun _ => ⟨_, hcontent⟩, ?_⟩
    simp [Undone, Throws, run, execute, hcontent, auto_inj]

lemma leavesAsSaid_of_recover {delivery : Delivery} {operation : String}
    (hrefused : ∀ exception, delivery ≠ .refused exception) {exception : PersistenceException}
    {c : Connection D}
    (hrun : transactionWork operation jdbc work (.auto durable) = recover jdbc exception c)
    (hundone : Undone durable (.commit delivery operation jdbc work) ↔
      (recover (T := T) jdbc exception c).2 = .auto durable) :
    LeavesAsSaid (.commit delivery operation jdbc work) durable := by
  have hthrows : (Call.commit delivery operation jdbc work).Throws (.auto durable) := by
    unfold Throws run execute
    cases delivery with
    | refused other => exact absurd rfl (hrefused other)
    | delivered => exact ⟨_, by dsimp only; rw [hrun]; rfl⟩
    | abandoned other => exact ⟨_, rfl⟩
  have hcontent : ((Call.commit delivery operation jdbc work).run (.auto durable)).2 =
      (recover (T := T) jdbc exception c).2 := by
    unfold run execute
    cases delivery with
    | refused other => exact absurd rfl (hrefused other)
    | delivered | abandoned => dsimp only; rw [hrun]
  exact ⟨fun hnot => absurd hthrows hnot, by rw [hundone, hcontent]; simp [hthrows]⟩

lemma leavesAsSaid_commit (delivery : Delivery) (operation : String) (jdbc : Jdbc)
    (work : SqlWork D T) (durable : D) :
    LeavesAsSaid (.commit delivery operation jdbc work) durable := by
  by_cases hrefused : ∃ exception, delivery = .refused exception
  · obtain ⟨exception, rfl⟩ := hrefused
    exact ⟨fun _ => ⟨durable, rfl⟩, by simp [Undone, run, execute]⟩
  push Not at hrefused
  cases hbegins : jdbc.begins with
  | false =>
    refine leavesAsSaid_of_recover hrefused (c := .auto durable)
      (by simp [transactionWork, hbegins]; rfl) ?_
    rw [recover_auto]
    cases delivery <;> simp [Undone, hbegins]
  | true =>
    have hundone : Undone durable (.commit delivery operation jdbc work) ↔
        match (runFrom work durable).1 with
        | .error .unchecked => False
        | .error _ => jdbc.restores = true ∧
          (jdbc.rollsBack = true ∨ (runFrom work durable).2 = durable)
        | .ok _ =>
          if jdbc.commits = false then
            jdbc.restores = true ∧ (jdbc.rollsBack = true ∨ (runFrom work durable).2 = durable)
          else if jdbc.finishes = false then
            jdbc.restores = true ∧ (runFrom work durable).2 = durable
          else delivery ≠ .delivered → (runFrom work durable).2 = durable := by
      cases delivery with
      | refused exception => exact absurd rfl (hrefused exception)
      | delivered | abandoned => simp only [Undone, hbegins]
    cases hwork : (runFrom work durable).1 with
    | error failure =>
      rw [hwork] at hundone
      cases failure with
      | sql | persistence =>
        refine leavesAsSaid_of_recover hrefused
          (c := ⟨durable, some (runFrom work durable).2⟩)
          (by simp [transactionWork, hbegins, apply_begin, hwork]; rfl) ?_
        rw [recover_open_iff, hundone]
      | unchecked =>
        -- The transaction is left open.
        have hopen : (transactionWork operation jdbc work (.auto durable)) =
            (.error .unchecked, ⟨durable, some (runFrom work durable).2⟩) := by
          simp [transactionWork, hbegins, apply_begin, hwork]
        have hleft : ((Call.commit delivery operation jdbc work).run (.auto durable)).2 ≠
            .auto durable := by
          unfold run execute
          cases delivery with
          | refused exception => exact absurd rfl (hrefused exception)
          | delivered | abandoned =>
            dsimp only
            rw [hopen]
            simp [Connection.auto]
        have hthrows : (Call.commit delivery operation jdbc work).Throws (.auto durable) := by
          unfold Throws run execute
          cases delivery with
          | refused exception => exact absurd rfl (hrefused exception)
          | delivered => exact ⟨.unchecked, by dsimp only; rw [hopen]⟩
          | abandoned exception => exact ⟨_, rfl⟩
        exact ⟨fun hnot => absurd hthrows hnot,
          by rw [hundone]; exact ⟨False.elim, fun h => hleft (h hthrows)⟩⟩
    | ok result =>
      rw [hwork] at hundone
      cases hcommits : jdbc.commits with
      | false =>
        refine leavesAsSaid_of_recover hrefused
          (c := ⟨durable, some (runFrom work durable).2⟩)
          (by simp [transactionWork, hbegins, apply_begin, hwork, hcommits]; rfl) ?_
        rw [recover_open_iff, hundone]
        simp only [hcommits, if_true]
      | true =>
        cases hfinishes : jdbc.finishes with
        | false =>
          refine leavesAsSaid_of_recover hrefused
            (c := (Connection.mk durable (some (runFrom work durable).2)).commit)
            (by simp [transactionWork, hbegins, apply_begin, hwork, hcommits, hfinishes]; rfl) ?_
          rw [recover_commit_iff, hundone]
          simp [hcommits, hfinishes]
        | true =>
          have hdone : transactionWork operation jdbc work (.auto durable) =
              (.ok result, .auto (runFrom work durable).2) := by
            simp [transactionWork, hbegins, apply_begin, hwork, hcommits, hfinishes]
            rfl
          cases delivery with
          | refused exception => exact absurd rfl (hrefused exception)
          | delivered =>
            refine ⟨fun _ => ⟨(runFrom work durable).2, by simp [run, execute, hdone]⟩, ?_⟩
            rw [hundone]
            simp [Throws, run, execute, hdone, hcommits, hfinishes]
          | abandoned exception =>
            refine ⟨fun _ => ⟨(runFrom work durable).2, by simp [run, execute, hdone]⟩, ?_⟩
            rw [hundone]
            simp [Throws, run, execute, hdone, hcommits, hfinishes, auto_inj]

theorem leavesAsSaid (call : Call D T) (durable : D) : LeavesAsSaid call durable := by
  cases call with
  | read delivery work => exact leavesAsSaid_read delivery work durable
  | commit delivery operation jdbc work =>
    exact leavesAsSaid_commit delivery operation jdbc work durable

/-! ## Sequences of calls -/

lemma after_append (c : Connection D) (calls more : List (Call D T)) :
    after c (calls ++ more) = after (after c calls) more :=
  List.foldl_append ..

lemma after_snoc (c : Connection D) (calls : List (Call D T)) (call : Call D T) :
    after c (calls ++ [call]) = (call.run (after c calls)).2 :=
  after_append c calls [call]

/-- While every call that throws leaves the connection in auto-commit mode, it stays there. -/
lemma auto_after {calls : List (Call D T)} (hthrown : ∀ pre call post, calls = pre ++ call :: post →
      (∃ content, after (.auto durable) pre = .auto content) →
      call.Throws (after (.auto durable) pre) →
        ∃ content, after (.auto durable) (pre ++ [call]) = .auto content) :
    ∃ content, after (.auto durable) calls = .auto content := by
  induction calls using List.reverseRecOn with
  | nil => exact ⟨durable, rfl⟩
  | append_singleton calls call ih =>
    obtain ⟨content, hcontent⟩ := ih fun pre other post heq =>
      hthrown pre other (post ++ [call]) (by rw [heq]; simp)
    by_cases hthrows : call.Throws (after (.auto durable) calls)
    · exact hthrown calls call [] rfl ⟨content, hcontent⟩ hthrows
    · rw [hcontent] at hthrows
      rw [after_snoc, hcontent]
      exact (leavesAsSaid call content).returns hthrows

/-- **When the calls leave no trace**: exactly when each of them meets its condition, on the content
that it is made on. -/
theorem leavesNoTrace_iff (durable : D) (calls : List (Call D T)) :
    LeavesNoTrace durable calls ↔
      ∀ pre call post, calls = pre ++ call :: post →
        call.Undone (after (.auto durable) pre).content := by
  constructor
  · intro h pre call post heq
    obtain ⟨content, hcontent⟩ : ∃ content, after (.auto durable) pre = .auto content := by
      refine auto_after fun pre' other post' heq' _ hthrows => ?_
      obtain ⟨-, hauto, -⟩ := h pre' other (post' ++ call :: post) (by rw [heq, heq']; simp) hthrows
      exact ⟨_, eq_auto_of_getAutoCommit hauto⟩
    rw [hcontent, Connection.content_auto, (leavesAsSaid call content).undone]
    intro hthrows
    rw [← hcontent] at hthrows
    obtain ⟨hsame, hauto, -⟩ := h pre call post heq hthrows
    rw [after_snoc, hcontent] at hsame hauto
    rw [eq_auto_of_getAutoCommit hauto]
    exact auto_inj.mpr hsame
  · intro h
    have hback : ∀ pre call post, calls = pre ++ call :: post →
        (∃ content, after (.auto durable) pre = .auto content) →
        call.Throws (after (.auto durable) pre) →
          after (.auto durable) (pre ++ [call]) = after (.auto durable) pre := by
      rintro pre call post heq ⟨content, hcontent⟩ hthrows
      have hundone := h pre call post heq
      rw [hcontent] at hundone hthrows
      rw [after_snoc, hcontent]
      exact (leavesAsSaid call content).undone.mp hundone hthrows
    intro pre call post heq hthrows
    obtain ⟨content, hcontent⟩ : ∃ content, after (.auto durable) pre = .auto content := by
      refine auto_after fun pre' other post' heq' hauto hother => ?_
      obtain ⟨content, hcontent⟩ := hauto
      rw [hback pre' other (post' ++ call :: post) (by rw [heq, heq']; simp) ⟨content, hcontent⟩
        hother]
      exact ⟨content, hcontent⟩
    have hsame := hback pre call post heq ⟨content, hcontent⟩ hthrows
    refine ⟨by rw [hsame], by rw [hsame, hcontent]; rfl, fun later _ => ?_⟩
    rw [List.append_cons, after_append, hsame, ← after_append]

/-- A body inserts a row and throws an unchecked exception; the next one does nothing. -/
def uncheckedInsert : List (Call (List ℕ) Unit) :=
  [.commit .delivered "insert" .willing (do modify fun rows => rows ++ [1]; throw .unchecked),
    .commit .delivered "nothing" .willing (pure ())]

/-- The second call makes the row of the first one durable. -/
theorem unchecked_insert_becomes_durable :
    (∀ call ∈ uncheckedInsert.head?, call.Throws (.auto [])) ∧
      (after (.auto []) uncheckedInsert).durable = [1] ∧ ¬ LeavesNoTrace [] uncheckedInsert := by
  have hthrows : (uncheckedInsert[0]).Throws (.auto []) := ⟨.unchecked, rfl⟩
  refine ⟨?_, rfl, ?_⟩
  · intro call hcall
    obtain rfl : uncheckedInsert[0] = call := Option.some.inj hcall
    exact hthrows
  · intro h
    obtain ⟨-, hauto, -⟩ := h [] uncheckedInsert[0] [uncheckedInsert[1]] rfl hthrows
    cases hauto

end Call

end JaDesktop.Persistence
