import JaDesktop.Settings.StoreRoundTrip

/-!
# Transactions of the settings store

The clones of a store share one lock, so their calls come one after the other, and a call that
stops between two replacements leaves the files as the replacements so far made them.  What the
files hold is then described by one optional document: the store is a register with a revision, and
each call either keeps the document or replaces it by its own.

The documents are those that the reader of the store accepts (`ReadableKeys`).
-/

namespace JaDesktop.Settings

open Host

/-! ## Calls that stop -/

/-- How far a call comes. -/
inductive Stop
  /-- it ends before its first replacement -/
  | untouched
  /-- it ends between the replacement of the backup and that of the primary file -/
  | backedUp
  /-- it has replaced the primary file and ends before it returns -/
  | replaced
  | returns
deriving DecidableEq

/-- What the replacements do; one that is not reached leaves its file as it is. -/
def Stop.answers (files : Files) : Stop → Answers
  | .untouched => ⟨.failed files.primary, .failed files.backup⟩
  | .backedUp => ⟨.failed files.primary, .done⟩
  | .replaced | .returns => {}

/-- The calls on a store. -/
inductive StoreCall
  | load
  | save (document : SettingsDocument)
  | compareAndSave (expectedRevision : UInt64) (document : SettingsDocument)
deriving DecidableEq

/-- The document that a call saves. -/
def StoreCall.document : StoreCall → Option SettingsDocument
  | .load => none
  | .save document | .compareAndSave _ document => some document

/-- Does the call answer `Ok`, and what does it leave? -/
def StoreCall.run (S : SettingsSerde) (parse : UrlParser) (stop : Stop) (files : Files) :
    StoreCall → Bool × Files
  | .load =>
    let loaded := Settings.load S parse (stop.answers files) files
    (loaded.1.toBool, loaded.2)
  | .save document =>
    let saved := Settings.save S parse (stop.answers files) files document
    (saved.1.toBool, saved.2)
  | .compareAndSave expectedRevision document =>
    let saved :=
      Settings.compareAndSave S parse (stop.answers files) files expectedRevision document
    (saved.1.toBool, saved.2)

/-! ## The register -/

variable {S : SettingsSerde} {parse : UrlParser} {files : Files} {d : SettingsDocument}
  {current : Option SettingsDocument} {stop : Stop}

/-- The files hold the document, or are not there yet. -/
def Stores (S : SettingsSerde) (parse : UrlParser) (files : Files) :
    Option SettingsDocument → Prop
  | none => files = emptyFiles
  | some d => files.primary = .file (S.toVecPretty d.toValue) ∧
      (S.toVecPretty d.toValue).length ≤ maxSettingsBytes ∧ d.validate parse = .ok () ∧
      d.ReadableKeys

lemma Stores.loadFile (hS : S.Faithful) (h : Stores S parse files (some d)) :
    loadFile S parse files.primary = .ok (d, false, S.toVecPretty d.toValue) := by
  obtain ⟨hprimary, hlength, hvalid, hkeys⟩ := h
  rw [hprimary, loadFile_written hS (schemaVersion_of_validate hvalid) hlength,
    (hasRefusedKey_document d).mpr hkeys]
  rfl

lemma Stores.loadCurrentLocked (hS : S.Faithful) (h : Stores S parse files current) :
    loadCurrentLocked S parse files = .ok current := by
  cases current with
  | none =>
    obtain rfl : files = emptyFiles := h
    rfl
  | some d => rw [Settings.loadCurrentLocked, h.loadFile hS]

/-- What `load` answers for the document of the files. -/
def loadedOf : Option SettingsDocument → LoadedSettings
  | none => ⟨{}, .default, false, false⟩
  | some d => ⟨d, .primary, false, false⟩

lemma Stores.load (hS : S.Faithful) (h : Stores S parse files current) (io : Answers) :
    load S parse io files = (.ok (loadedOf current), files) := by
  cases current with
  | none =>
    obtain rfl : files = emptyFiles := h
    rfl
  | some d =>
    rw [Settings.load, h.loadFile hS]
    rfl

/-- A write either leaves the document, and the primary file, or puts its own in their place. -/
lemma Stores.persist (h : Stores S parse files current) (hvalid : d.validate parse = .ok ())
    (hkeys : d.ReadableKeys) (backupCurrent : Bool) (stop : Stop) :
    let persisted := persistDocumentLocked S (stop.answers files) files d backupCurrent
    (persisted.1.toBool = true ∧ Stores S parse persisted.2 (some d)) ∨
      (persisted.1.toBool = false ∧ persisted.2.primary = files.primary ∧
        Stores S parse persisted.2 current) := by
  unfold persistDocumentLocked
  dsimp only
  split
  · exact Or.inr ⟨rfl, rfl, h⟩
  next hlarge =>
  have hnew : ∀ backup, Stores S parse ⟨.file (S.toVecPretty d.toValue), backup⟩ (some d) :=
    fun _ => ⟨rfl, by omega, hvalid, hkeys⟩
  cases current with
  | none =>
    -- There is nothing to copy, and the only step is the replacement of the primary file.
    obtain rfl : files = emptyFiles := h
    have hnone : (backupCurrent && emptyFiles.primary.exists) = false := by
      cases backupCurrent <;> rfl
    simp only [hnone]
    cases stop with
    | untouched | backedUp => exact Or.inr ⟨rfl, rfl, rfl⟩
    | replaced | returns => exact Or.inl ⟨rfl, hnew _⟩
  | some old =>
    have hold : ∀ backup, Stores S parse ⟨files.primary, backup⟩ (some old) := fun _ => h
    obtain ⟨hprimary, hlength, -⟩ := h
    have hread : readBounded files.primary = .ok (S.toVecPretty old.toValue) := by
      rw [hprimary, readBounded, if_neg (by omega)]
    cases backupCurrent && files.primary.exists with
    | true =>
      simp only [atomicCopy, hread, if_true]
      cases stop with
      | untouched | backedUp => exact Or.inr ⟨rfl, rfl, hold _⟩
      | replaced | returns => exact Or.inl ⟨rfl, hnew _⟩
    | false =>
      cases stop with
      | untouched | backedUp => exact Or.inr ⟨rfl, rfl, hold _⟩
      | replaced | returns => exact Or.inl ⟨rfl, hnew _⟩

lemma checkedSucc_eq_some {n m : UInt64} :
    checkedSucc n = some m → m.toNat = n.toNat + 1 := by
  unfold checkedSucc
  split_ifs with h
  · rintro heq
    obtain rfl := Option.some.inj heq
    rw [UInt64.toNat_add]
    exact Nat.mod_eq_of_lt h
  · simp

/-- The revision that a call asks for: `save` the next one, or at most one for the first document;
`compare_and_save` the one after the expected revision, which is that of the document, or zero. -/
def StoreCall.Follows (current : Option SettingsDocument) : StoreCall → Prop
  | .load => False
  | .save document =>
    match current with
    | none => document.revision.toNat ≤ 1
    | some old => document.revision.toNat = old.revision.toNat + 1
  | .compareAndSave expectedRevision document =>
    expectedRevision = (current.map (·.revision)).getD 0 ∧
      document.revision.toNat = expectedRevision.toNat + 1

/-- A call of whose document the reader accepts every key. -/
def StoreCall.Readable (call : StoreCall) : Prop := ∀ d, call.document = some d → d.ReadableKeys

lemma Stores.checkRevision (hS : S.Faithful) (h : Stores S parse files current)
    (hcheck : checkRevision S parse files d = .ok ()) : (StoreCall.save d).Follows current := by
  unfold Settings.checkRevision at hcheck
  cases current with
  | none =>
    obtain rfl : files = emptyFiles := h
    rw [if_neg (by decide), reject_eq_ok, decide_eq_false_iff_not] at hcheck
    exact UInt64.le_iff_toNat_le.mp (UInt64.not_lt.mp hcheck)
  | some old =>
    have hexists : files.primary.exists = true := by rw [h.1]; rfl
    rw [hexists, Bool.true_or, if_pos rfl, h.loadCurrentLocked hS, ok_bind] at hcheck
    dsimp only at hcheck
    rw [reject_eq_ok, bne_eq_false_iff_eq] at hcheck
    exact checkedSucc_eq_some hcheck

/-- **What a call does**: it keeps the document and the primary file, and then answers `Ok` only
if it is a `load`; or it asks for the next revision and puts its own document in place. -/
theorem Stores.run (hS : S.Faithful) (h : Stores S parse files current) {call : StoreCall}
    (hcall : call.Readable) (stop : Stop) :
    let r := call.run S parse stop files
    (r.2.primary = files.primary ∧ Stores S parse r.2 current ∧
        (r.1 = true → call = .load)) ∨
      (r.1 = true ∧ call.Follows current ∧ ∃ d, call.document = some d ∧
        Stores S parse r.2 (some d)) := by
  cases call with
  | load =>
    have hload := h.load hS (stop.answers files)
    refine Or.inl ⟨?_, ?_, fun _ => rfl⟩
    · rw [StoreCall.run, hload]
    · rw [StoreCall.run, hload]
      exact h
  | save d =>
    simp only [StoreCall.run, Settings.save]
    split
    · exact Or.inl ⟨rfl, h, fun hok => by cases hok⟩
    next hvalid =>
    have hvalid : d.validate parse = .ok () := mapError_eq_ok.mp hvalid
    split
    · exact Or.inl ⟨rfl, h, fun hok => by cases hok⟩
    next hcheck =>
    rcases h.persist hvalid (hcall d rfl) files.primary.exists stop with
      ⟨hok, hnew⟩ | ⟨hfailed, hprimary, hold⟩
    · exact Or.inr ⟨hok, h.checkRevision hS hcheck, d, rfl, hnew⟩
    · refine Or.inl ⟨hprimary, hold, fun hok => ?_⟩
      rw [hfailed] at hok
      cases hok
  | compareAndSave expected d =>
    simp only [StoreCall.run, Settings.compareAndSave, h.loadCurrentLocked hS]
    split
    · exact Or.inl ⟨rfl, h, fun hok => by cases hok⟩
    next next hnext =>
    split_ifs with hconflict
    · exact Or.inl ⟨rfl, h, fun hok => by cases hok⟩
    split
    · exact Or.inl ⟨rfl, h, fun hok => by cases hok⟩
    next hvalid =>
    have hvalid : d.validate parse = .ok () := mapError_eq_ok.mp hvalid
    have hfollows : (StoreCall.compareAndSave expected d).Follows current := by
      simp only [Bool.or_eq_true, bne_iff_ne, not_or, not_not] at hconflict
      exact ⟨hconflict.1.symm, checkedSucc_eq_some (hconflict.2 ▸ hnext)⟩
    rcases h.persist hvalid (hcall d rfl) current.isSome stop with
      ⟨hok, hnew⟩ | ⟨hfailed, hprimary, hold⟩
    · exact Or.inr ⟨(toBool_map _ _).trans hok, hfollows, d, rfl, hnew⟩
    · refine Or.inl ⟨hprimary, hold, fun hok => ?_⟩
      rw [toBool_map, hfailed] at hok
      cases hok

/-! ## Histories -/

/-- The files, with what has happened to them: the document of the last save that returned `Ok`,
those of the saves that were interrupted since then, and the expected revisions of the
`compare_and_save` calls that returned `Ok`. -/
structure StoreHistory where
  files : Files
  completed : Option SettingsDocument
  interrupted : List SettingsDocument
  won : List UInt64

namespace StoreHistory

/-- A call has returned `Ok`. -/
def succeeds (S : SettingsSerde) (parse : UrlParser) (s : StoreHistory) (call : StoreCall)
    (stop : Stop) : Bool :=
  (call.run S parse stop s.files).1 && stop = .returns

/-- A call is made and stops. -/
def after (S : SettingsSerde) (parse : UrlParser) (s : StoreHistory) (event : StoreCall × Stop) :
    StoreHistory :=
  let (call, stop) := event
  let files := (call.run S parse stop s.files).2
  if s.succeeds S parse call stop then
    match call with
    | .load => { s with files := files }
    | .save d => { s with files := files, completed := some d, interrupted := [] }
    | .compareAndSave expected d =>
      ⟨files, some d, [], s.won ++ [expected]⟩
  else { s with files := files, interrupted := s.interrupted ++ call.document.toList }

/-- A new store in an empty directory. -/
def initial : StoreHistory := ⟨emptyFiles, none, [], []⟩

/-- The calls so far. -/
def reached (S : SettingsSerde) (parse : UrlParser) (events : List (StoreCall × Stop)) :
    StoreHistory :=
  events.foldl (after S parse) initial

variable {s : StoreHistory}

/-- The revision that a `compare_and_save` has to expect. -/
def rank (current : Option SettingsDocument) : ℕ :=
  ((current.map SettingsDocument.revision).getD 0).toNat

@[simp] lemma rank_none : rank none = 0 := rfl

@[simp] lemma rank_some : rank (some d) = d.revision.toNat := rfl

/-- The document of the files, against the history. -/
structure Traced (S : SettingsSerde) (parse : UrlParser) (s : StoreHistory)
    (current : Option SettingsDocument) : Prop where
  stores : Stores S parse s.files current
  /-- it stems from the last successful save or from one that was interrupted later -/
  origin : ∀ d, current = some d → s.completed = some d ∨ d ∈ s.interrupted
  /-- it is not older than the last successful save -/
  newest : ∀ c, s.completed = some c →
    ∃ d, current = some d ∧ c.revision.toNat ≤ d.revision.toNat
  /-- what was expected successfully is in the past -/
  past : ∀ expected ∈ s.won, expected.toNat < rank current
  won : s.won.Nodup

lemma rank_follows {call : StoreCall} (h : call.Follows current) (hd : call.document = some d) :
    rank current ≤ rank (some d) ∧
      ∀ old, current = some old → d.revision.toNat = old.revision.toNat + 1 := by
  cases call with
  | load => exact h.elim
  | save d =>
    obtain rfl := Option.some.inj hd
    cases current with
    | none => exact ⟨by simp, fun old hold => by cases hold⟩
    | some old =>
      have hnext : d.revision.toNat = old.revision.toNat + 1 := h
      refine ⟨?_, fun old' hold => ?_⟩
      · simp only [rank_some]
        omega
      · obtain rfl := Option.some.inj hold
        exact hnext
  | compareAndSave expected d =>
    obtain rfl := Option.some.inj hd
    obtain ⟨rfl, hnext⟩ := h
    refine ⟨?_, fun old hold => ?_⟩
    · rw [rank_some, hnext, rank]
      exact Nat.le_succ _
    · subst hold
      exact hnext

lemma Traced.after (hS : S.Faithful) (h : Traced S parse s current) {event : StoreCall × Stop}
    (hcall : event.1.Readable) : ∃ current', Traced S parse (s.after S parse event) current' := by
  obtain ⟨call, stop⟩ := event
  unfold StoreHistory.after
  dsimp only
  rcases h.stores.run hS hcall stop with ⟨-, hstores, hload⟩ | ⟨hok, hfollows, d, hd, hstores⟩
  · -- The document stays.
    refine ⟨current, ?_⟩
    split_ifs with hsucceeds
    · obtain rfl := hload (Bool.and_eq_true_iff.mp hsucceeds).1
      exact ⟨hstores, h.origin, h.newest, h.past, h.won⟩
    · refine ⟨hstores, fun d hd => ?_, h.newest, h.past, h.won⟩
      exact (h.origin d hd).imp id (List.mem_append_left _)
  · obtain ⟨hrank, hnext⟩ := rank_follows hfollows hd
    refine ⟨some d, ?_⟩
    split_ifs with hsucceeds
    · cases call with
      | load => cases hd
      | save d =>
        obtain rfl := Option.some.inj hd
        refine ⟨hstores, fun d' hd' => Or.inl hd', fun c hc => ⟨c, hc ▸ rfl, le_rfl⟩, ?_, h.won⟩
        exact fun expected hwon => (h.past expected hwon).trans_le hrank
      | compareAndSave expected d =>
        obtain rfl := Option.some.inj hd
        -- Every earlier winner expected less than the revision that is now replaced.
        have hpast : ∀ other ∈ s.won, other.toNat < expected.toNat := by
          intro other hother
          exact hfollows.1 ▸ h.past other hother
        refine ⟨hstores, fun d' hd' => Or.inl hd', fun c hc => ⟨c, hc ▸ rfl, le_rfl⟩, ?_, ?_⟩
        · intro other hother
          have hrevision : d.revision.toNat = expected.toNat + 1 := hfollows.2
          rw [rank_some]
          rcases List.mem_append.mp hother with hother | hother
          · have hlt := hpast other hother
            omega
          · obtain rfl := List.mem_singleton.mp hother
            omega
        · refine List.nodup_append.mpr ⟨h.won, List.pairwise_singleton _ _, ?_⟩
          rintro other hother _ hnew rfl
          obtain rfl := List.mem_singleton.mp hnew
          exact lt_irrefl _ (hpast _ hother)
    · refine ⟨hstores, fun d' hd' => ?_, fun c hc => ?_, ?_, h.won⟩
      · obtain rfl := Option.some.inj hd'
        exact Or.inr (List.mem_append_right _ (by simp [hd]))
      · obtain ⟨old, hold, hle⟩ := h.newest c hc
        have hnew := hnext old hold
        exact ⟨d, rfl, by omega⟩
      · exact fun expected hwon => (h.past expected hwon).trans_le hrank

lemma traced_reached (hS : S.Faithful) {events : List (StoreCall × Stop)}
    (hevents : ∀ event ∈ events, event.1.Readable) :
    ∃ current, Traced S parse (reached S parse events) current := by
  refine List.foldlRecOn events _ (motive := fun s => ∃ current, Traced S parse s current) ?_ ?_
  · exact ⟨none, rfl, by simp, by simp [initial], by simp [initial], List.nodup_nil⟩
  · rintro s ⟨current, h⟩ event hevent
    exact h.after hS (hevents event hevent)

/-- What the store promises after the calls of a history. -/
structure Transactional (S : SettingsSerde) (parse : UrlParser) (s : StoreHistory) : Prop where
  /-- a save that succeeds raises the revision that it was checked against by one, and is stored -/
  raises : ∀ call : StoreCall, call.Readable → call ≠ .load → s.succeeds S parse call .returns = true →
    ∃ current d, loadCurrentLocked S parse s.files = .ok current ∧ call.Follows current ∧
      call.document = some d ∧
      loadCurrentLocked S parse (s.after S parse (call, .returns)).files = .ok (some d)
  /-- no expected revision has won twice -/
  won : s.won.Nodup
  /-- a call that fails leaves the primary file as it was -/
  fails : ∀ (call : StoreCall) stop, call.Readable → (call.run S parse stop s.files).1 = false →
    (call.run S parse stop s.files).2.primary = s.files.primary
  /-- wherever a call stops, the next `load` answers as before it or with its document -/
  stops : ∀ (call : StoreCall) stop io, call.Readable →
    (load S parse io (call.run S parse stop s.files).2).1 = (load S parse io s.files).1 ∨
      ∃ d, call.document = some d ∧
        (load S parse io (call.run S parse stop s.files).2).1 = .ok ⟨d, .primary, false, false⟩
  /-- `load` answers with the last complete save or one that was interrupted later, and with the
  defaults only when no save has been completed -/
  loads : ∀ io, ∃ loaded, load S parse io s.files = (.ok loaded, s.files) ∧
    (loaded.source = .default ∧ s.completed = none ∨
      loaded.source = .primary ∧
        (s.completed = some loaded.document ∨ loaded.document ∈ s.interrupted)) ∧
    ∀ c, s.completed = some c → c.revision.toNat ≤ loaded.document.revision.toNat

lemma Traced.transactional (hS : S.Faithful) (h : Traced S parse s current) :
    Transactional S parse s where
  raises call hcall hload hsucceeds := by
    have hok := (Bool.and_eq_true_iff.mp hsucceeds).1
    rcases h.stores.run hS hcall .returns with ⟨-, -, hkept⟩ | ⟨-, hfollows, d, hd, hstores⟩
    · exact absurd (hkept hok) hload
    · refine ⟨current, d, h.stores.loadCurrentLocked hS, hfollows, hd, ?_⟩
      have hfiles : (s.after S parse (call, .returns)).files =
          (call.run S parse .returns s.files).2 := by
        unfold StoreHistory.after
        dsimp only
        rw [if_pos hsucceeds]
        cases call <;> rfl
      rw [hfiles]
      exact hstores.loadCurrentLocked hS
  won := h.won
  fails call stop hcall hfailed := by
    rcases h.stores.run hS hcall stop with ⟨hprimary, -⟩ | ⟨hok, -⟩
    · exact hprimary
    · rw [hfailed] at hok
      cases hok
  stops call stop io hcall := by
    rcases h.stores.run hS hcall stop with ⟨-, hstores, -⟩ | ⟨-, -, d, hd, hstores⟩
    · left
      rw [hstores.load hS, h.stores.load hS]
    · refine Or.inr ⟨d, hd, ?_⟩
      rw [hstores.load hS]
      rfl
  loads io := by
    refine ⟨loadedOf current, h.stores.load hS io, ?_, ?_⟩
    · cases current with
      | none =>
        refine Or.inl ⟨rfl, ?_⟩
        by_contra hsome
        obtain ⟨c, hc⟩ := Option.ne_none_iff_exists'.mp hsome
        obtain ⟨d, hd, -⟩ := h.newest c hc
        cases hd
      | some d => exact Or.inr ⟨rfl, h.origin d rfl⟩
    · intro c hc
      obtain ⟨d, rfl, hle⟩ := h.newest c hc
      exact hle

/-- **Settings transactions**: after any calls, each stopped at any point, as long as the reader
accepts the keys of the documents. -/
theorem settings_transactions (hS : S.Faithful) (events : List (StoreCall × Stop))
    (hevents : ∀ event ∈ events, event.1.Readable) :
    Transactional S parse (reached S parse events) := by
  obtain ⟨current, h⟩ := traced_reached hS hevents
  exact h.transactional hS

/-- Settings are saved and then saved again, the second time not to the end. -/
def langEvents : List (StoreCall × Stop) :=
  [(.save (settingsWithVariable "LANG"), .returns),
    (.compareAndSave 1 { settingsWithVariable "LANG" with revision := 2 }, .backedUp)]

theorem settings_transactions_lang :
    Transactional prettySerde (fun _ => none)
      (reached prettySerde (fun _ => none) langEvents) := by
  refine settings_transactions prettySerde_faithful langEvents ?_
  have hkeys : (settingsWithVariable "LANG").ReadableKeys := forall_mem_of_all (by decide +kernel)
  rintro event hevent d hd
  rcases List.mem_pair.mp hevent with rfl | rfl
  · cases hd
    exact hkeys
  · cases hd
    exact hkeys

/-! ## Where `load` does not answer with a saved document -/

lemma after_files (s : StoreHistory) (call : StoreCall) (stop : Stop) :
    (s.after S parse (call, stop)).files = (call.run S parse stop s.files).2 := by
  unfold StoreHistory.after
  dsimp only
  split_ifs
  · cases call <;> rfl
  · rfl

lemma after_interrupted (s : StoreHistory) (call : StoreCall) (hstop : stop ≠ .returns) :
    (s.after S parse (call, stop)).completed = s.completed ∧
      (s.after S parse (call, stop)).interrupted = s.interrupted ++ call.document.toList := by
  have hnot : s.succeeds S parse call stop = false := by
    rw [succeeds, decide_eq_false hstop, Bool.and_false]
  unfold StoreHistory.after
  dsimp only
  rw [hnot]
  exact ⟨rfl, rfl⟩

lemma reached_save (d : SettingsDocument) :
    (reached S parse [(.save d, .returns)]).files = (save S parse {} emptyFiles d).2 ∧
      (save S parse {} emptyFiles d).2.backup = .absent := by
  refine ⟨after_files initial (.save d) .returns, ?_⟩
  have hnone : ((emptyFiles.primary.exists : Bool) && emptyFiles.primary.exists) = false := rfl
  unfold save persistDocumentLocked
  split
  · rfl
  split
  · rfl
  simp only [hnone]
  split_ifs <;> rfl

lemma reached_untouched (d : SettingsDocument) :
    let s := reached S parse [(.save d, .untouched)]
    s.files = emptyFiles ∧ s.completed = none ∧ s.interrupted = [d] := by
  refine ⟨(after_files initial (.save d) .untouched).trans ?_,
    after_interrupted initial (.save d) (by decide)⟩
  have hnone : ((emptyFiles.primary.exists : Bool) && emptyFiles.primary.exists) = false := rfl
  change (save S parse _ emptyFiles d).2 = emptyFiles
  unfold save persistDocumentLocked
  split
  · rfl
  split
  · rfl
  simp only [hnone]
  split_ifs <;> rfl

lemma load_of_refused {files : Files} {e : SettingsError} {io : Answers}
    (hfile : loadFile S parse files.primary = .error e) (hbackup : files.backup = .absent)
    (hexists : files.primary.exists = true) :
    (load S parse io files).1 = .error .corruptRecovery := by
  have hnone : loadFile S parse files.backup = .error .io := by
    rw [hbackup]
    rfl
  rw [load, hfile, hnone, hexists]
  rfl

/-- The first save stops before its replacement, and `load` answers with the defaults; or the reader
refuses a key of the saved document, and `load` answers with an error. -/
theorem load_misses_saved :
    (¬ ∀ events : List (StoreCall × Stop), (∀ event ∈ events, event.1.Readable) → ∃ loaded,
      (load prettySerde (fun _ => none) {}
        (reached prettySerde (fun _ => none) events).files).1 = .ok loaded ∧
      ((reached prettySerde (fun _ => none) events).completed = some loaded.document ∨
        loaded.document ∈ (reached prettySerde (fun _ => none) events).interrupted)) ∧
    (load prettySerde (fun _ => none) {} (reached prettySerde (fun _ => none)
      [(.save (settingsWithVariable "PRIVATE_KEY"), .returns)]).files).1 =
        .error .corruptRecovery := by
  constructor
  · intro h
    obtain ⟨loaded, hload, hdocument⟩ := h [(.save (settingsWithVariable "LANG"), .untouched)] (by
      rintro event hevent d hd
      obtain rfl := List.mem_singleton.mp hevent
      cases hd
      exact forall_mem_of_all (by decide +kernel))
    obtain ⟨hfiles, hcompleted, hinterrupted⟩ :=
      reached_untouched (S := prettySerde) (settingsWithVariable "LANG")
    rw [hfiles] at hload
    cases hload
    rw [hcompleted, hinterrupted, List.mem_singleton] at hdocument
    rcases hdocument with hnone | hsame
    · cases hnone
    · exact absurd (congrArg SettingsDocument.revision hsame) (by decide)
  · have hsaved := saved_settingsWithVariable "PRIVATE_KEY" (by decide +kernel) (by decide +kernel)
    have hrefused : hasRefusedKey (settingsWithVariable "PRIVATE_KEY").toValue = true := by
      decide +kernel
    have hfile := hsaved.loadFile prettySerde_faithful
    rw [hrefused, if_pos rfl] at hfile
    have hexists : (filesWithVariable "PRIVATE_KEY").primary.exists = true := by
      rw [hsaved.primary.2.1]
      rfl
    obtain ⟨hfiles, hbackup⟩ :=
      @reached_save prettySerde (fun _ => none) (settingsWithVariable "PRIVATE_KEY")
    rw [filesWithVariable] at hfile hexists
    rw [hfiles]
    exact load_of_refused hfile hbackup hexists

end StoreHistory

end JaDesktop.Settings
