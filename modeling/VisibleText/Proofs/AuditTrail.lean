import VisibleText.Proofs.PageWrite

/-!
# What the records of page writes say

Every batch that is carried out leaves one record, and a call that fails leaves none. The record
lists the edits as the outcome does, and it should say that the page was written just if it was.

The words of the record follow from whether the batch was only tried, but a page is not written
either if every edit of the batch was dropped. So the record tells the truth unless a batch that
was not only tried comes to nothing (`Site.audit_truthful_iff`, `Site.not_forall_audit_truthful`).
-/

set_option autoImplicit false

namespace VisibleText

/-! ## The words of a record -/

namespace Log.AuditRecord

/-- A record says that the page was written. -/
def SaysWrote (r : AuditRecord) : Prop := text "Wrote " <+: r.message

/-- The words follow from whether the batch was only tried. -/
theorem saysWrote_iff {r : AuditRecord} : r.SaysWrote ↔ r.isDryRun = false := by
  have hmessage : r.message = text (if r.isDryRun then "Previewed " else "Wrote ") ++
      (r.page ++ text ": " ++ Text.ofNat r.applied.length ++ text " applied, " ++
        Text.ofNat r.dropped.length ++ text " dropped") := by
    simp only [message, List.append_assoc]
  rw [SaysWrote, hmessage]
  cases r.isDryRun with
  | false => exact iff_of_true (List.prefix_append _ _) rfl
  | true =>
    -- the two openings differ in their first letter
    refine iff_of_false (fun hprefix => ?_) (by decide)
    obtain ⟨rest, hrest⟩ := hprefix
    have hhead := congrArg List.head? hrest
    cases hhead

/-- A record lists the edits as the outcome of a batch does: those that were carried out, and
those that were dropped with the reasons. -/
structure Reports (r : AuditRecord) (page : PagePath) (isDryRun : Bool) (outcome : DraftOutcome) :
    Prop where
  page_eq : r.page = page.path
  applied_eq : r.applied = outcome.applied
  dropped_eq : r.dropped = outcome.dropped.map fun d =>
    [(text "id", .string d.draft.id), (text "reason", .ofString d.reason.name)]
  isDryRun_eq : r.isDryRun = isDryRun

/-- A log that takes records of this level takes each of them once. -/
theorem taken_eq_singleton {level : Level} (takes : level.takes .info = true) (r : AuditRecord) :
    r.taken level = [r] := if_pos takes

end Log.AuditRecord

/-! ## Calls with their records -/

/-- What a call leaves behind: its result, the disk, and the records that a log has taken. -/
structure LoggedCall where
  result : Except SiteError DraftOutcome
  disk : Disk
  records : List Log.AuditRecord

namespace PreparedEdits

/-- The store has taken what came out of a batch for the file of its page. -/
def Wrote (p : PreparedEdits) (disk : Disk) (tag : Text) : Prop :=
  p.writes = true ∧
    (p.site.store.writeText disk tag p.storePath p.outcome.source (some p.source)).1 = .ok ()

/-- A batch that succeeds leaves its record, and the page was written just if it was to be. -/
theorem commit_eq_ok {p : PreparedEdits} {disk disk' : Disk} {tag : Text} {r : Log.AuditRecord}
    (h : p.commit disk tag = (.ok r, disk')) :
    r = p.record ∧ (p.Wrote disk tag ↔ p.writes = true) := by
  rw [commit] at h
  split at h
  · next hwrites =>
    -- the record is made only once the store has taken the text
    split at h
    · cases congrArg Prod.fst h
    · next hstore =>
      cases h
      refine ⟨rfl, iff_of_true ⟨hwrites, ?_⟩ hwrites⟩
      rw [hstore]
  · next hidle =>
    cases h
    exact ⟨rfl, iff_of_false (fun hwrote => hidle hwrote.1) hidle⟩

end PreparedEdits

namespace Site

/-- Carries out a batch of edits of a page as `Site.apply` does, with a log of some level. -/
def applyLogged (site : Site) (before disk : Disk) (tag : Text) (name : Option Text)
    (batch : Except BatchError (List EditDraft)) (isDryRun : Bool) (level : Log.Level) :
    LoggedCall :=
  match site.prepare before name batch isDryRun with
  | .error e => ⟨.error e, disk, []⟩
  | .ok p =>
    match p.commit disk tag with
    | (.error e, disk) => ⟨.error e, disk, []⟩
    | (.ok record, disk) => ⟨.ok p.outcome, disk, record.taken level⟩

/-- A call writes the page. -/
def Writes (site : Site) (before disk : Disk) (tag : Text) (name : Option Text)
    (batch : Except BatchError (List EditDraft)) (isDryRun : Bool) : Prop :=
  ∃ p, site.prepare before name batch isDryRun = .ok p ∧ p.Wrote disk tag

section Calls

variable {site : Site} {before disk : Disk} {tag : Text} {name : Option Text}
  {batch : Except BatchError (List EditDraft)} {isDryRun : Bool} {level : Log.Level}

/-- What a call with a log comes to. -/
inductive Logs (site : Site) (before disk : Disk) (tag : Text) (name : Option Text)
    (batch : Except BatchError (List EditDraft)) (isDryRun : Bool) (level : Log.Level) :
    LoggedCall → Prop where
  /-- the batch could not be worked out -/
  | refused {e : SiteError} (prepares : site.prepare before name batch isDryRun = .error e) :
    Logs site before disk tag name batch isDryRun level ⟨.error e, disk, []⟩
  /-- the page could not be written -/
  | failed {p : PreparedEdits} {e : SiteError} {disk' : Disk}
    (prepares : site.prepare before name batch isDryRun = .ok p)
    (commits : p.commit disk tag = (.error e, disk')) :
    Logs site before disk tag name batch isDryRun level ⟨.error e, disk', []⟩
  | done {p : PreparedEdits} {disk' : Disk}
    (prepares : site.prepare before name batch isDryRun = .ok p)
    (commits : p.commit disk tag = (.ok p.record, disk')) :
    Logs site before disk tag name batch isDryRun level
      ⟨.ok p.outcome, disk', p.record.taken level⟩

theorem logs_applyLogged (site : Site) (before disk : Disk) (tag : Text) (name : Option Text)
    (batch : Except BatchError (List EditDraft)) (isDryRun : Bool) (level : Log.Level) :
    site.Logs before disk tag name batch isDryRun level
      (site.applyLogged before disk tag name batch isDryRun level) := by
  unfold applyLogged
  split
  · next prepares => exact .refused prepares
  · next p prepares =>
    split
    · next commits => exact .failed prepares commits
    · next commits =>
      obtain ⟨rfl, -⟩ := PreparedEdits.commit_eq_ok commits
      exact .done prepares commits

/-- A log changes nothing of what a call does. -/
theorem Logs.apply_eq {call : LoggedCall}
    (h : site.Logs before disk tag name batch isDryRun level call) :
    site.apply before disk tag name batch isDryRun = (call.result, call.disk) := by
  cases h with
  | refused prepares => simp only [apply, prepares]
  | failed prepares commits | done prepares commits => simp only [apply, prepares, commits]

/-- A call that succeeds writes the page if the batch was not only tried and some edit of it was
carried out. -/
theorem writes_iff {p : PreparedEdits} {disk' : Disk}
    (prepares : site.prepare before name batch isDryRun = .ok p)
    (commits : p.commit disk tag = (.ok p.record, disk')) :
    site.Writes before disk tag name batch isDryRun ↔
      isDryRun = false ∧ p.outcome.applied ≠ [] := by
  obtain ⟨-, hdry, -⟩ := exists_of_prepare prepares
  obtain ⟨-, hwrote⟩ := PreparedEdits.commit_eq_ok commits
  have hreal := p.writes_iff
  rw [hdry] at hreal
  rw [← hreal, ← hwrote]
  constructor
  · rintro ⟨q, hq, hq'⟩
    obtain rfl := Except.ok.inj (prepares.symm.trans hq)
    exact hq'
  · intro h
    exact ⟨p, prepares, h⟩

end Calls

/-- With a log that takes these records, a call that fails leaves none, and one that succeeds leaves
one, which lists the edits as the outcome does. The page holds what came out of the batch if the
call has written it, and otherwise the disk is as it was. What the record says of that is true
unless a batch that was not only tried has come to nothing. -/
theorem audit_truthful_iff {level : Log.Level} (takes : level.takes .info = true) (site : Site)
    (before disk : Disk) (tag : Text) (name : Option Text)
    (batch : Except BatchError (List EditDraft)) (isDryRun : Bool) {call : LoggedCall}
    (hcall : site.applyLogged before disk tag name batch isDryRun level = call) :
    (∀ e, call.result = .error e → call.records = []) ∧
    ∀ outcome, call.result = .ok outcome → ∃ r page, call.records = [r] ∧
      pagePath name = .ok page ∧ r.Reports page isDryRun outcome ∧
      (site.Writes before disk tag name batch isDryRun →
        ∃ place, site.HasPage name place ∧ disk.Rewritten call.disk place outcome.source) ∧
      (¬ site.Writes before disk tag name batch isDryRun → call.disk = disk) ∧
      ((r.SaysWrote ↔ site.Writes before disk tag name batch isDryRun) ↔
        isDryRun = true ∨ outcome.applied ≠ []) := by
  have hlogs := logs_applyLogged site before disk tag name batch isDryRun level
  rw [hcall] at hlogs
  have happly := hlogs.apply_eq
  cases hlogs with
  | refused | failed =>
    refine ⟨fun _ _ => rfl, ?_⟩
    intro outcome h
    cases h
  | @done p disk' prepares commits =>
    refine ⟨fun e h => ?_, fun outcome h => ?_⟩
    · cases h
    obtain rfl := Except.ok.inj h
    have hwrites := writes_iff prepares commits
    obtain ⟨-, hdry, hpage, -⟩ := exists_of_prepare prepares
    obtain ⟨hidle, hreal⟩ := apply_ok happly
    refine ⟨p.record, p.page, Log.AuditRecord.taken_eq_singleton takes _, hpage,
      ⟨rfl, rfl, rfl, hdry⟩, ?_, ?_, ?_⟩
    · intro h
      exact hreal (hwrites.1 h)
    · intro hnot
      apply hidle
      rw [hwrites, not_and_or, Bool.not_eq_false, not_not] at hnot
      exact hnot
    · have hwrote : p.record.SaysWrote ↔ isDryRun = false := by
        rw [Log.AuditRecord.saysWrote_iff, ← hdry]
        rfl
      rw [hwrote, hwrites]
      cases isDryRun with
      | true => simp
      | false => simp

/-- The site of a project at the root of the disk. -/
def atRoot : Site where
  store := ⟨[]⟩
  pagesFolder := some (text ".")
  basePath := some (text "/admin")
  bounds := { openTag := .whole 2000, search := .whole 200 }

/-- A disk with one page. -/
def onePage : Disk := .folder [(text "a.astro", .file (text "<p>x</p>").bytes)]

/-- A batch of one edit of that page. -/
def retyped (id : String) : Except BatchError (List EditDraft) :=
  .ok [.ofEdit ⟨text id, text "x", text "y"⟩]

/-- A batch that is carried out, and the record that says so. -/
theorem audit_truthful_iff_of_paragraph : ∃ (call : LoggedCall) (outcome : DraftOutcome)
    (r : Log.AuditRecord), Log.Level.takes .info .info = true ∧
    atRoot.applyLogged onePage onePage (text "1") (some (text "a.astro")) (retyped "text:3") false
      .info = call ∧
    call.result = .ok outcome ∧ outcome.source = text "<p>y</p>" ∧ call.records = [r] ∧
    r.applied = [text "text:3"] ∧ r.SaysWrote ∧
    atRoot.Writes onePage onePage (text "1") (some (text "a.astro")) (retyped "text:3") false := by
  have hrun : (atRoot.applyLogged onePage onePage (text "1") (some (text "a.astro"))
      (retyped "text:3") false .info).result.toOption.map (fun o => (o.source, o.applied)) =
      some (text "<p>y</p>", [text "text:3"]) := by
    decide +kernel
  obtain ⟨outcome, hresult, hfound⟩ := Option.map_eq_some_iff.1 hrun
  obtain ⟨hsource, happlied⟩ := Prod.mk.inj hfound
  have hlevel : Log.Level.takes .info .info = true := by decide
  obtain ⟨-, hall⟩ := audit_truthful_iff hlevel atRoot onePage onePage (text "1")
    (some (text "a.astro")) (retyped "text:3") false rfl
  obtain ⟨r, page, hrecords, -, hreports, -, -, htrue⟩ :=
    hall outcome (Markup.eq_ok_of_toOption hresult)
  have hwrote : r.SaysWrote := Log.AuditRecord.saysWrote_iff.2 hreports.isDryRun_eq
  have hwrites := (htrue.2 (.inr (happlied ▸ List.cons_ne_nil _ _))).1 hwrote
  exact ⟨_, outcome, r, rfl, rfl, Markup.eq_ok_of_toOption hresult, hsource, hrecords,
    hreports.applied_eq.trans happlied, hwrote, hwrites⟩

/-- A record does not always tell the truth: a batch of which every edit is dropped writes nothing,
and its record says that it has. -/
theorem not_forall_audit_truthful : ¬ ∀ (site : Site) (before disk : Disk) (tag : Text)
    (name : Option Text) (batch : Except BatchError (List EditDraft)) (isDryRun : Bool)
    (outcome : DraftOutcome) (r : Log.AuditRecord),
    (site.applyLogged before disk tag name batch isDryRun .info).result = .ok outcome →
      (site.applyLogged before disk tag name batch isDryRun .info).records = [r] →
        (r.SaysWrote ↔ site.Writes before disk tag name batch isDryRun) := by
  intro hall
  have hrun : (atRoot.applyLogged onePage onePage (text "1") (some (text "a.astro"))
      (retyped "text:9") false .info).result.toOption.map (fun o => o.applied) = some [] := by
    decide +kernel
  have hwrote : (atRoot.applyLogged onePage onePage (text "1") (some (text "a.astro"))
      (retyped "text:9") false .info).records.map (fun r => r.isDryRun) = [false] := by
    decide +kernel
  obtain ⟨outcome, hresult, hnone⟩ := Option.map_eq_some_iff.1 hrun
  obtain ⟨r, hrecords, hreal⟩ := List.map_eq_singleton_iff.1 hwrote
  have hresult := Markup.eq_ok_of_toOption hresult
  have hwrites := (hall _ _ _ _ _ _ _ outcome r hresult hrecords).1
    (Log.AuditRecord.saysWrote_iff.2 hreal)
  have hlogs := logs_applyLogged atRoot onePage onePage (text "1") (some (text "a.astro"))
    (retyped "text:9") false .info
  generalize atRoot.applyLogged onePage onePage (text "1") (some (text "a.astro"))
    (retyped "text:9") false .info = call at hlogs hresult
  cases hlogs with
  | refused | failed => cases hresult
  | done prepares commits =>
    cases hresult
    exact ((writes_iff prepares commits).1 hwrites).2 hnone

end Site

end VisibleText
