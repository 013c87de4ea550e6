import Mathlib.Data.List.Induction
import Mathlib.Logic.Function.Basic
import VisibleText.Proofs.PageWrite

/-!
# Writers of one page

Any number of calls carry out batches of edits on one page, and other writers replace the page
whenever they like. A call takes two steps: it reads the page, and later it writes it. The steps
of all writers come in any order, one after the other.

No batch is lost (`Race.no_lost_update`): a call writes the page only while the page holds what
the call has read, so at any time the page holds what comes out if the writes of the others and
the batches of the calls that have written are performed one after the other, each on what the
one before has left. Only what the page holds counts: it may have changed and changed back. A call
that finds anything else changes nothing and fails. It fails with a conflict, unless what it finds
is not even UTF-8 (`Race.not_forall_conflict`).
-/

set_option autoImplicit false

namespace VisibleText

/-- A call that carries out a batch of edits on the page at a place. -/
structure Call (place : Place) where
  site : Site
  name : Option Text
  batch : Except BatchError (List EditDraft)
  isDryRun : Bool
  /-- what makes the name under which the page is written first a new one -/
  tag : Text
  hasPage : site.HasPage name place

/-- How far a call has come. -/
inductive Phase where
  | waiting
  /-- the page was read, and the batch was worked out -/
  | holding (p : PreparedEdits)
  | finished (result : Except SiteError DraftOutcome)

/-- What happens to a page: another writer leaves some content or none there, or a call carries
out its batch. -/
inductive Effect (ι : Type) where
  | foreign (content : Option Bytes)
  | batch (i : ι)
deriving DecidableEq

/-- A disk on which calls work, how far each of them has come, and what has happened to their
page. -/
structure Race (ι : Type) where
  disk : Disk
  phase : ι → Phase
  log : List (Effect ι)

/-- The next step of some call, or another writer who leaves some disk behind. -/
inductive Move (ι : Type) where
  | turn (i : ι)
  | foreign (disk : Disk)

variable {ι : Type} [DecidableEq ι] {place : Place}

namespace Call

/-- The first step of a call. -/
def read (c : Call place) (disk : Disk) : Except SiteError PreparedEdits :=
  c.site.prepare disk c.name c.batch c.isDryRun

/-- What a batch makes of a page, if it changes the page. -/
def edited? (c : Call place) (content : Bytes) : Option Bytes := do
  let source ← content.decode.toOption
  let drafts ← c.batch.toOption
  let outcome ← (applyDrafts c.site.bounds source drafts).toOption
  if c.isDryRun || outcome.applied.isEmpty then none else some outcome.source.bytes

end Call

/-- What a call holds between its two steps. -/
def Phase.held? : Phase → Option PreparedEdits
  | .holding p => some p
  | _ => none

theorem Phase.eq_holding_of_held? {phase : Phase} {p : PreparedEdits}
    (h : phase.held? = some p) : phase = .holding p := by
  cases phase with
  | holding q => exact congrArg Phase.holding (Option.some.inj h)
  | waiting | finished => cases h

/-- A call that has come so far has written the page. -/
def Phase.HasWritten (c : Call place) : Phase → Prop
  | .finished (.ok outcome) => c.isDryRun = false ∧ outcome.applied ≠ []
  | _ => False

namespace Effect

/-- What a page holds after something happened to it. A batch can be carried out only on a page
that is there, and only if it changes the page. -/
def after? (calls : ι → Call place) (content : Option Bytes) : Effect ι → Option (Option Bytes)
  | foreign new => some new
  | batch i => (content.bind (calls i).edited?).map some

/-- The call whose batch was carried out. -/
def call? : Effect ι → Option ι
  | foreign _ => none
  | batch i => some i

end Effect

namespace Race

/-- No call has done anything yet. -/
def start (disk : Disk) : Race ι := ⟨disk, fun _ => .waiting, []⟩

/-- The calls that have carried out their batches, in the order in which they did. -/
def writers (s : Race ι) : List ι := s.log.filterMap Effect.call?

/-- A call comes further. -/
def set (s : Race ι) (i : ι) (phase : Phase) : Race ι :=
  { s with phase := Function.update s.phase i phase }

/-- The next step of a call. -/
def turn (calls : ι → Call place) (s : Race ι) (i : ι) : Race ι :=
  match s.phase i with
  | .waiting =>
    match (calls i).read s.disk with
    | .error e => s.set i (.finished (.error e))
    | .ok p => s.set i (.holding p)
  | .holding p =>
    match p.commit s.disk (calls i).tag with
    | (.error e, disk) => { s with disk := disk }.set i (.finished (.error e))
    | (.ok _, disk) =>
      let happened := if p.writes then [.batch i] else []
      { s with disk := disk, log := s.log ++ happened }.set i (.finished (.ok p.outcome))
  | .finished _ => s

/-- One step of any writer. -/
def move (calls : ι → Call place) (s : Race ι) : Move ι → Race ι
  | .turn i => s.turn calls i
  | .foreign disk => { s with disk := disk, log := s.log ++ [.foreign (disk.file? place)] }

/-- The steps of all writers in the order in which they come. -/
def run (calls : ι → Call place) (s : Race ι) (moves : List (Move ι)) : Race ι :=
  moves.foldl (move calls) s

variable {calls : ι → Call place} {s : Race ι} {i : ι} {p : PreparedEdits}

@[simp] theorem set_disk (s : Race ι) (i : ι) (phase : Phase) : (s.set i phase).disk = s.disk := rfl

@[simp] theorem set_log (s : Race ι) (i : ι) (phase : Phase) : (s.set i phase).log = s.log := rfl

@[simp] theorem set_phase_self (s : Race ι) (i : ι) (phase : Phase) :
    (s.set i phase).phase i = phase := by
  simp only [set, Function.update_self]

theorem set_phase_of_ne {j : ι} (hj : j ≠ i) (s : Race ι) (phase : Phase) :
    (s.set i phase).phase j = s.phase j := by
  simp only [set, Function.update_of_ne hj]

theorem run_concat (calls : ι → Call place) (s : Race ι) (moves : List (Move ι)) (m : Move ι) :
    run calls s (moves ++ [m]) = (run calls s moves).move calls m := by
  rw [run, List.foldl_append]
  rfl

/-! ## What a call remembers -/

/-- A step of a call is no step of another one. -/
theorem turn_phase_of_ne {j : ι} (hj : j ≠ i) : (s.turn calls i).phase j = s.phase j := by
  unfold turn
  split
  · split <;> exact set_phase_of_ne hj _ _
  · split <;> exact set_phase_of_ne hj _ _
  · rfl

theorem read_of_turn_holding (h : (s.turn calls i).phase i = .holding p) :
    s.phase i = .waiting ∧ (calls i).read s.disk = .ok p := by
  unfold turn at h
  split at h
  · next hphase =>
    split at h
    · rw [set_phase_self] at h
      cases h
    · next p' hread =>
      rw [set_phase_self] at h
      cases h
      exact ⟨hphase, hread⟩
  · split at h <;> · rw [set_phase_self] at h; cases h
  · next hphase =>
    rw [hphase] at h
    cases h

/-- What a call remembers is what it read at an earlier time. -/
theorem exists_read_of_holding {disk : Disk} {moves : List (Move ι)}
    (h : (run calls (start disk) moves).phase i = .holding p) :
    ∃ earlier, earlier <+: moves ∧ (run calls (start disk) earlier).phase i = .waiting ∧
      (calls i).read (run calls (start disk) earlier).disk = .ok p := by
  induction moves using List.reverseRecOn with
  | nil => cases h
  | append_singleton moves m ih =>
    rw [run_concat] at h
    -- the call has read the page with this step, or it remembers it from before
    have hstep : (run calls (start disk) moves).phase i = .holding p ∨
        (run calls (start disk) moves).phase i = .waiting ∧
          (calls i).read (run calls (start disk) moves).disk = .ok p := by
      cases m with
      | foreign disk' => exact .inl h
      | turn j =>
        by_cases hj : i = j
        · subst hj
          exact .inr (read_of_turn_holding h)
        · exact .inl ((turn_phase_of_ne hj).symm.trans h)
    rcases hstep with hbefore | hread
    · obtain ⟨earlier, hearlier, hread⟩ := ih hbefore
      exact ⟨earlier, hearlier.trans (List.prefix_append moves [m]), hread⟩
    · exact ⟨moves, List.prefix_append moves [m], hread⟩

end Race

/-! ## What a step of a call does -/

/-- What a call that has read its page knows. -/
theorem Call.exists_found {c : Call place} {before : Disk} {p : PreparedEdits}
    (h : c.read before = .ok p) :
    p.site = c.site ∧ p.isDryRun = c.isDryRun ∧
      ∃ drafts, c.batch = .ok drafts ∧ p.Found before place drafts :=
  c.hasPage.exists_found h

theorem Call.edited?_of_found {c : Call place} {p : PreparedEdits} {before : Disk} {b : Bytes}
    (h : c.read before = .ok p) (hwrites : p.writes = true) (hb : b.decode = .ok p.source) :
    c.edited? b = some p.outcome.source.bytes := by
  obtain ⟨hsite, hdry, drafts, hbatch, found⟩ := exists_found h
  obtain ⟨hreal, happlied⟩ := PreparedEdits.writes_iff.1 hwrites
  have houtcome := found.outcome_eq
  rw [hsite] at houtcome
  rw [hdry] at hreal
  simp only [edited?, hb, hbatch, houtcome, hreal, List.isEmpty_eq_false_iff.2 happlied,
    Except.toOption, Option.bind_eq_bind, Option.bind_some, Bool.or_self]
  rfl

namespace Race

variable {calls : ι → Call place} {s : Race ι} {i : ι}

/-- Whatever a call remembers is what it has read on some disk. -/
def Knows (calls : ι → Call place) (s : Race ι) : Prop :=
  ∀ i p, s.phase i = .holding p → ∃ before, (calls i).read before = .ok p

/-- What the next step of a call comes to. -/
inductive Turns (calls : ι → Call place) (s : Race ι) (i : ι) : Race ι → Prop where
  | failed {e : SiteError} (waiting : s.phase i = .waiting)
    (fails : (calls i).read s.disk = .error e) : Turns calls s i (s.set i (.finished (.error e)))
  | read {p : PreparedEdits} (waiting : s.phase i = .waiting)
    (reads : (calls i).read s.disk = .ok p) : Turns calls s i (s.set i (.holding p))
  | kept {p : PreparedEdits} (holding : s.phase i = .holding p) (idle : p.writes = false) :
    Turns calls s i (s.set i (.finished (.ok p.outcome)))
  | refused {p : PreparedEdits} {e : StoreError} (holding : s.phase i = .holding p)
    (writes : p.writes = true)
    (refusal : Store.refusal? (s.disk.file? place) p.storePath p.source = some e) :
    Turns calls s i (s.set i (.finished (.error (.store e))))
  | stopped {p : PreparedEdits} {fault : DiskFault} (holding : s.phase i = .holding p)
    (writes : p.writes = true)
    (unchanged : Store.refusal? (s.disk.file? place) p.storePath p.source = none) :
    Turns calls s i (s.set i (.finished (.error (.store (.disk fault)))))
  | written {p : PreparedEdits} (holding : s.phase i = .holding p) (writes : p.writes = true)
    (unchanged : Store.refusal? (s.disk.file? place) p.storePath p.source = none) :
    Turns calls s i (set ⟨s.disk.put (.file p.outcome.source.bytes) place, s.phase,
      s.log ++ [.batch i]⟩ i (.finished (.ok p.outcome)))
  | rests {result : Except SiteError DraftOutcome} (finished : s.phase i = .finished result) :
    Turns calls s i s

theorem turns_turn (knows : s.Knows calls) (i : ι) : Turns calls s i (s.turn calls i) := by
  unfold turn
  split
  · next waiting =>
    split
    · next fails => exact .failed waiting fails
    · next reads => exact .read waiting reads
  · -- whatever has become of the disk, the call writes only what it has read
    next p holding =>
    obtain ⟨before, hread⟩ := knows i p holding
    obtain ⟨-, -, drafts, -, found⟩ := Call.exists_found hread
    have hcommits := found.commits s.disk (calls i).tag
    generalize p.commit s.disk (calls i).tag = result at hcommits
    cases hcommits with
    | kept idle =>
      simp only [idle, Bool.false_eq_true, if_false, List.append_nil]
      exact .kept holding idle
    | refused writes refusal => exact .refused holding writes refusal
    | failed writes unchanged => exact .stopped holding writes unchanged
    | written writes unchanged =>
      simp only [writes, if_true]
      exact .written holding writes unchanged
  · next finished => exact .rests finished

/-! ## What has happened to the page -/

/-- What has happened accounts for what the page holds: performed one after the other, it leaves
exactly that, and the batches that were carried out are those of the calls that have written. -/
structure Accounts (calls : ι → Call place) (before : Option Bytes) (s : Race ι) : Prop where
  performs : s.log.foldlM (Effect.after? calls) before = some (s.disk.file? place)
  once : s.writers.Nodup
  mem_writers_iff : ∀ i, i ∈ s.writers ↔ (s.phase i).HasWritten (calls i)

variable {before : Option Bytes}

theorem Accounts.set (h : s.Accounts calls before) {phase : Phase}
    (hold : ¬ (s.phase i).HasWritten (calls i)) (hnew : ¬ phase.HasWritten (calls i)) :
    (s.set i phase).Accounts calls before := by
  refine ⟨h.performs, h.once, fun j => (h.mem_writers_iff j).trans ?_⟩
  by_cases hj : j = i
  · subst hj
    rw [set_phase_self]
    exact iff_of_false hold hnew
  · rw [set_phase_of_ne hj]

theorem Accounts.foreign (h : s.Accounts calls before) (disk : Disk) :
    (s.move calls (.foreign disk)).Accounts calls before := by
  have hwriters : (s.move calls (.foreign disk)).writers = s.writers := by
    rw [writers, move, List.filterMap_append]
    exact List.append_nil _
  refine ⟨?_, hwriters ▸ h.once, hwriters ▸ h.mem_writers_iff⟩
  rw [move, List.foldlM_append, h.performs]
  rfl

theorem Accounts.written (h : s.Accounts calls before) (knows : s.Knows calls)
    {p : PreparedEdits} (holding : s.phase i = .holding p) (writes : p.writes = true)
    (unchanged : Store.refusal? (s.disk.file? place) p.storePath p.source = none) :
    (Race.set ⟨s.disk.put (.file p.outcome.source.bytes) place, s.phase,
      s.log ++ [.batch i]⟩ i (.finished (.ok p.outcome))).Accounts calls before := by
  obtain ⟨old, hread⟩ := knows i p holding
  obtain ⟨b, hfile, hdecode⟩ := Store.refusal?_eq_none_iff.1 unchanged
  obtain ⟨-, hdry, -⟩ := Call.exists_found hread
  obtain ⟨hreal, happlied⟩ := PreparedEdits.writes_iff.1 writes
  have hnew : i ∉ s.writers := by
    rw [h.mem_writers_iff, holding]
    exact id
  have hwriters : (Race.set ⟨s.disk.put (.file p.outcome.source.bytes) place, s.phase,
      s.log ++ [.batch i]⟩ i (.finished (.ok p.outcome))).writers = s.writers ++ [i] := by
    rw [writers, set_log, List.filterMap_append]
    rfl
  refine ⟨?_, ?_, fun j => ?_⟩
  · -- the page held what the call had read, so its batch is carried out on what was there
    have hput := Entry.file?_eq_some_iff.2
      (Entry.at?_put (Entry.file?_eq_some_iff.1 hfile) (.file p.outcome.source.bytes))
    have hafter : Effect.after? calls (some b) (.batch i) =
        some (some p.outcome.source.bytes) := by
      rw [Effect.after?, Option.bind_some, Call.edited?_of_found hread writes hdecode,
        Option.map_some]
    rw [set_log, set_disk, List.foldlM_append, h.performs, hfile, hput]
    simp only [List.foldlM_cons, List.foldlM_nil, Option.bind_eq_bind, Option.bind_some, hafter]
    rfl
  · rw [hwriters]
    exact List.nodup_append.2 ⟨h.once, List.pairwise_singleton _ i, fun j hj k hk heq =>
      hnew (List.mem_singleton.1 hk ▸ heq ▸ hj)⟩
  · rw [hwriters, List.mem_append, List.mem_singleton, h.mem_writers_iff]
    by_cases hj : j = i
    · subst hj
      rw [set_phase_self]
      exact iff_of_true (.inr rfl) ⟨hdry.symm.trans hreal, happlied⟩
    · rw [set_phase_of_ne hj, or_iff_left hj]

theorem Accounts.turn (h : s.Accounts calls before) (knows : s.Knows calls) (i : ι) :
    (s.turn calls i).Accounts calls before := by
  have hturns := turns_turn knows i
  generalize s.turn calls i = s' at hturns
  -- a call that writes is logged, and no other step writes the page
  cases hturns with
  | failed waiting => exact h.set (waiting ▸ id) id
  | read waiting => exact h.set (waiting ▸ id) id
  | refused holding => exact h.set (holding ▸ id) id
  | stopped holding => exact h.set (holding ▸ id) id
  | kept holding idle =>
    obtain ⟨old, hread⟩ := knows i _ holding
    obtain ⟨-, hdry, -⟩ := Call.exists_found hread
    refine h.set (holding ▸ id) fun hwritten => ?_
    rw [PreparedEdits.writes_iff.2 ⟨hdry.trans hwritten.1, hwritten.2⟩] at idle
    cases idle
  | written holding writes unchanged => exact h.written knows holding writes unchanged
  | rests => exact h

theorem knows_run (calls : ι → Call place) (disk : Disk) (moves : List (Move ι)) :
    (run calls (start disk) moves).Knows calls := by
  intro i p holding
  obtain ⟨earlier, -, -, hread⟩ := exists_read_of_holding holding
  exact ⟨_, hread⟩

/-- Whatever order the steps come in. -/
theorem accounts_run (calls : ι → Call place) (disk : Disk) (moves : List (Move ι)) :
    (run calls (start disk) moves).Accounts calls (disk.file? place) := by
  induction moves using List.reverseRecOn with
  | nil => exact ⟨rfl, List.nodup_nil, fun i => iff_of_false List.not_mem_nil id⟩
  | append_singleton moves m ih =>
    rw [run_concat]
    cases m with
    | turn i => exact ih.turn (knows_run calls disk moves) i
    | foreign disk' => exact ih.foreign disk'

/-! ## No batch is lost -/

/-- What the step comes to in which a call writes the page at a place. -/
structure WritesWhatItRead (place : Place) (i : ι) (p : PreparedEdits) (s s' : Race ι) :
    Prop where
  /-- a call that succeeds has found what it had read, and changes no other file -/
  ok : ∀ outcome, s'.phase i = .finished (.ok outcome) →
    (∃ b, s.disk.file? place = some b ∧ b.decode = .ok p.source) ∧
      s.disk.Rewritten s'.disk place outcome.source
  /-- a call that fails changes nothing -/
  error : ∀ e, s'.phase i = .finished (.error e) → s'.disk = s.disk
  /-- a call that finds what it had read fails only if the disk takes no file beside the page -/
  found : ∀ b, s.disk.file? place = some b → b.decode = .ok p.source →
    s'.phase i = .finished (.ok p.outcome) ∨
      ∃ fault, s'.phase i = .finished (.error (.store (.disk fault)))
  /-- a call that finds another text or no file fails with a conflict -/
  conflict : (s.disk.file? place = none ∨
      ∃ b t, s.disk.file? place = some b ∧ b.decode = .ok t ∧ t ≠ p.source) →
    s'.phase i = .finished (.error (.store (.conflict p.storePath)))
  /-- a call that finds what is no text fails to read it -/
  undecodable : ∀ b fault, s.disk.file? place = some b → b.decode = .error fault →
    s'.phase i = .finished (.error (.store (.undecodable fault)))

omit [DecidableEq ι] in
theorem writesWhatItRead_of_refusal {s' : Race ι} {p : PreparedEdits} {e : StoreError}
    (hphase : s'.phase i = .finished (.error (.store e))) (hdisk : s'.disk = s.disk)
    (refusal : Store.refusal? (s.disk.file? place) p.storePath p.source = some e) :
    WritesWhatItRead place i p s s' := by
  refine ⟨fun outcome hok => ?_, fun _ _ => hdisk, fun b hfile hdecode => ?_, fun h => ?_,
    fun b fault hfile hdecode => ?_⟩
  · cases hphase.symm.trans hok
  · rw [Store.refusal?_eq_none_iff.2 ⟨b, hfile, hdecode⟩] at refusal
    cases refusal
  · rw [Store.refusal?_eq_conflict h] at refusal
    cases refusal
    exact hphase
  · rw [hfile, Store.refusal?_eq_undecodable hdecode] at refusal
    cases refusal
    exact hphase

omit [DecidableEq ι] in
theorem writesWhatItRead_of_unchanged {s' : Race ι} {p : PreparedEdits}
    (unchanged : Store.refusal? (s.disk.file? place) p.storePath p.source = none)
    (hresult : (s'.phase i = .finished (.ok p.outcome) ∧
        s.disk.Rewritten s'.disk place p.outcome.source) ∨
      ∃ fault, s'.phase i = .finished (.error (.store (.disk fault))) ∧ s'.disk = s.disk) :
    WritesWhatItRead place i p s s' := by
  refine ⟨fun outcome hok => ⟨Store.refusal?_eq_none_iff.1 unchanged, ?_⟩, fun e herror => ?_,
    fun _ _ _ => hresult.imp And.left (Exists.imp fun _ => And.left), fun h => ?_,
    fun b fault hfile hdecode => ?_⟩
  · rcases hresult with ⟨hphase, hdisk⟩ | ⟨fault, hphase, -⟩
    · cases hphase.symm.trans hok
      exact hdisk
    · cases hphase.symm.trans hok
  · rcases hresult with ⟨hphase, -⟩ | ⟨fault, -, hdisk⟩
    · cases hphase.symm.trans herror
    · exact hdisk
  · rw [Store.refusal?_eq_conflict h] at unchanged
    cases unchanged
  · rw [hfile, Store.refusal?_eq_undecodable hdecode] at unchanged
    cases unchanged

theorem writesWhatItRead_turn (knows : s.Knows calls) {p : PreparedEdits}
    (holding : s.phase i = .holding p) (writes : p.writes = true) :
    WritesWhatItRead place i p s (s.turn calls i) := by
  obtain ⟨old, hread⟩ := knows i p holding
  obtain ⟨-, -, drafts, -, found⟩ := Call.exists_found hread
  have hturns := turns_turn knows i
  generalize s.turn calls i = s' at hturns
  cases hturns with
  -- the call holds what it has read, so this is its second step
  | failed waiting | read waiting => cases holding.symm.trans waiting
  | rests finished => cases holding.symm.trans finished
  | kept holding' idle =>
    cases holding.symm.trans holding'
    cases idle.symm.trans writes
  | refused holding' _ refusal =>
    cases holding.symm.trans holding'
    exact writesWhatItRead_of_refusal (set_phase_self s i _) rfl refusal
  | stopped holding' _ unchanged =>
    cases holding.symm.trans holding'
    exact writesWhatItRead_of_unchanged unchanged (.inr ⟨_, set_phase_self s i _, rfl⟩)
  | written holding' _ unchanged =>
    cases holding.symm.trans holding'
    obtain ⟨b, hfile, -⟩ := Store.refusal?_eq_none_iff.1 unchanged
    exact writesWhatItRead_of_unchanged unchanged (.inl ⟨set_phase_self _ i _,
      Disk.rewritten_put hfile (hasSurrogate_of_applyDrafts found.outcome_eq)⟩)

/-- Whatever order the steps of all calls and of the other writers come in, what the page holds is
what they have written one after the other. A call that holds what it has read writes the page
only if the page still holds exactly that. -/
theorem no_lost_update (calls : ι → Call place) (disk : Disk) (moves : List (Move ι)) :
    (run calls (start disk) moves).Accounts calls (disk.file? place) ∧
    ∀ i p, (run calls (start disk) moves).phase i = .holding p →
      (∃ earlier, earlier <+: moves ∧ (run calls (start disk) earlier).phase i = .waiting ∧
        (calls i).read (run calls (start disk) earlier).disk = .ok p ∧
        ∃ b, (run calls (start disk) earlier).disk.file? place = some b ∧
          b.decode = .ok p.source) ∧
      (p.writes = true → WritesWhatItRead place i p (run calls (start disk) moves)
        ((run calls (start disk) moves).turn calls i)) := by
  refine ⟨accounts_run calls disk moves, fun i p holding => ⟨?_, fun writes => ?_⟩⟩
  · obtain ⟨earlier, hearlier, waiting, hread⟩ := exists_read_of_holding holding
    obtain ⟨-, -, drafts, -, found⟩ := Call.exists_found hread
    exact ⟨earlier, hearlier, waiting, hread, found.read⟩
  · exact writesWhatItRead_turn (knows_run calls disk moves) holding writes

/-- A call that replaces the text of the page `<p>x</p>` at the root of the disk. -/
def retyping (new : Text) : Call [text "a.astro"] where
  site := ⟨⟨[]⟩, some (text "."), some (text "/admin"), ⟨.whole 2000, .whole 200, rfl, rfl⟩⟩
  name := some (text "a.astro")
  batch := .ok [.ofEdit ⟨text "text:3", text "x", new⟩]
  isDryRun := false
  tag := text "1"
  hasPage := ⟨⟨text "a.astro", by decide +kernel⟩, text "./a.astro",
    Markup.eq_ok_of_toOption (by decide +kernel), rfl, Markup.eq_ok_of_toOption (by decide +kernel)⟩

/-- Two calls read a page before either of them writes it. The first one writes it, and the second
one fails. -/
theorem no_lost_update_of_two_calls : ∃ (calls : Bool → Call [text "a.astro"]) (disk : Disk)
    (moves : List (Move Bool)) (p : PreparedEdits),
    (run calls (start disk) moves).log = [.batch false] ∧
    (run calls (start disk) moves).disk.file? [text "a.astro"] = some (text "<p>y</p>").bytes ∧
    (run calls (start disk) moves).phase true = .holding p ∧ p.writes = true ∧
    ((run calls (start disk) moves).turn calls true).phase true =
      .finished (.error (.store (.conflict p.storePath))) := by
  let calls : Bool → Call [text "a.astro"] := fun i => retyping (text (if i then "z" else "y"))
  let disk : Disk := .folder [(text "a.astro", .file (text "<p>x</p>").bytes)]
  let moves : List (Move Bool) := [.turn false, .turn true, .turn false]
  have hlog : (run calls (start disk) moves).log = [.batch false] := by decide +kernel
  have hfile : (run calls (start disk) moves).disk.file? [text "a.astro"] =
      some (text "<p>y</p>").bytes := by
    decide +kernel
  have hheld : ((run calls (start disk) moves).phase true).held?.map
      (fun p => (p.source, p.writes)) = some (text "<p>x</p>", true) := by
    decide +kernel
  obtain ⟨p, hp, hfound⟩ := Option.map_eq_some_iff.1 hheld
  obtain ⟨hsource, hwrites⟩ := Prod.mk.inj hfound
  have holding := Phase.eq_holding_of_held? hp
  have hall := (no_lost_update calls disk moves).2 true p holding
  have hne : text "<p>y</p>" ≠ p.source := by
    rw [hsource]
    decide
  have hconflict := (hall.2 hwrites).conflict
    (.inr ⟨_, _, hfile, Markup.eq_ok_of_toOption (by decide +kernel), hne⟩)
  exact ⟨calls, disk, moves, p, hlog, hfile, holding, hwrites, hconflict⟩

/-- A call does not always fail with a conflict if the page is not what it has read: another
writer may have left bytes that are no text. -/
theorem not_forall_conflict : ¬ ∀ (calls : Unit → Call [text "a.astro"]) (disk : Disk)
    (moves : List (Move Unit)) (p : PreparedEdits),
    (run calls (start disk) moves).phase () = .holding p → p.writes = true →
    (∀ b, (run calls (start disk) moves).disk.file? [text "a.astro"] = some b →
      b.decode ≠ .ok p.source) →
    ((run calls (start disk) moves).turn calls ()).phase () =
      .finished (.error (.store (.conflict p.storePath))) := by
  intro hall
  let calls : Unit → Call [text "a.astro"] := fun _ => retyping (text "y")
  let disk : Disk := .folder [(text "a.astro", .file (text "<p>x</p>").bytes)]
  let moves : List (Move Unit) :=
    [.turn (), .foreign (.folder [(text "a.astro", .file [0xFF])])]
  have hfile : (run calls (start disk) moves).disk.file? [text "a.astro"] = some [0xFF] := by
    decide +kernel
  have hdecode : Bytes.decode [0xFF] = .error ⟨0, [0xFF], .start⟩ := rfl
  have hheld : ((run calls (start disk) moves).phase ()).held?.map (·.writes) = some true := by
    decide +kernel
  obtain ⟨p, hp, hwrites⟩ := Option.map_eq_some_iff.1 hheld
  have holding := Phase.eq_holding_of_held? hp
  have hturn := writesWhatItRead_turn (knows_run calls disk moves) holding hwrites
  have hfault := hturn.undecodable _ _ hfile hdecode
  have hchanged : ∀ b, (run calls (start disk) moves).disk.file? [text "a.astro"] = some b →
      b.decode ≠ .ok p.source := by
    intro b hb hread
    rw [← Option.some.inj (hfile.symm.trans hb), hdecode] at hread
    cases hread
  have hconflict := hall calls disk moves p holding hwrites hchanged
  cases hfault.symm.trans hconflict

end Race

end VisibleText
