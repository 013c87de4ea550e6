import Mathlib.Data.List.Pairwise
import VisibleText.Proofs.Application
import VisibleText.Proofs.OwnPlace
import VisibleText.Proofs.SiteOrder

/-!
# Writing back what is there

A batch that gives every field the value that it has should change nothing and carry out every
edit. It does if every field is found in its own place (`applyEdits_unchanged`): then the fields
stand one behind the other, so that their identifiers tell them apart and no two edits get in each
other's way, and no value holds the quote that stands before it.

A field that is found elsewhere may share its place with another one, and one of the two edits is
dropped (`not_forall_unchanged`).
-/

set_option autoImplicit false

namespace VisibleText

/-! ## Identifiers -/

theorem Text.ofNat_inj {m n : Nat} (h : Text.ofNat m = Text.ofNat n) : m = n := by
  have hchars : m.repr.toList = n.repr.toList :=
    List.map_injective_iff.2 (fun c d hcd => CodePoint.char.inj hcd) h
  rw [Nat.toList_repr, Nat.toList_repr] at hchars
  rw [← Nat.ofDigitChars_toDigits (b := 10) (n := m) (by decide) (by decide), hchars,
    Nat.ofDigitChars_toDigits (by decide) (by decide)]

theorem Text.not_mem_ofNat {c : Char} (hc : c.isDigit = false) (n : Nat) :
    CodePoint.char c ∉ Text.ofNat n := by
  intro hmem
  obtain ⟨d, hd, hdc⟩ := List.mem_map.1 hmem
  rw [CodePoint.char.inj hdc, Nat.toList_repr] at hd
  rw [Nat.isDigit_of_mem_toDigits (by decide) (by decide) hd] at hc
  cases hc

/-- A text without some code point is written as it is, whatever stands for the code point. -/
theorem Text.substitute_of_not_mem {t : Text} {c : CodePoint} (h : c ∉ t) (written : Text) :
    t.substitute c written = t := by
  induction t with
  | nil => rfl
  | cons d t ih =>
    rw [List.mem_cons, not_or] at h
    rw [Text.substitute, List.flatMap_cons, if_neg (Ne.symm h.1)]
    exact congrArg (d :: ·) (ih h.2)

/-- The entity that is written for a quote. -/
def Markup.Quote.entity : Markup.Quote → Text
  | double => text "&quot;"
  | single => text "&#39;"

theorem Markup.Quote.quoteEntity?_byte (quote : Markup.Quote) :
    quoteEntity? quote.byte = some (quote.mark, quote.entity) := by
  cases quote <;> rfl

/-- A quote stands right before a place. -/
def Bytes.QuoteBefore (b : Bytes) (quote : Markup.Quote) (place : Nat) : Prop :=
  ∃ n, place = n + 1 ∧ b[n]? = some quote.byte

theorem Bytes.QuoteBefore.escapeQuote_eq {b : Bytes} {quote : Markup.Quote} {place : Nat}
    (h : b.QuoteBefore quote place) (value : Text) :
    escapeQuote b place value = value.substitute quote.mark quote.entity := by
  obtain ⟨n, rfl, hbyte⟩ := h
  rw [escapeQuote, quoteBefore?, hbyte, Option.bind_some, quote.quoteEntity?_byte]

/-- What stands before a quoted value ends with a quote. -/
theorem Bytes.quoteBefore_of_valueHead {b front back name before after : Bytes}
    {quote : Markup.Quote} (h : b = front ++ valueHead name before after quote.byte ++ back) :
    b.QuoteBefore quote (front.length + (valueHead name before after quote.byte).length) := by
  generalize hlead : name ++ before ++ 0x3D :: after = lead
  rw [valueHead, hlead] at h ⊢
  refine ⟨(front ++ lead).length, ?_, ?_⟩
  · simp only [List.length_append, List.length_singleton, Nat.add_assoc]
  · have hsplit : b = front ++ lead ++ quote.byte :: back := by
      rw [h]
      simp
    rw [hsplit, List.getElem?_append_right (Nat.le_refl _), Nat.sub_self]
    rfl

namespace Field

theorem textId_inj {m n : Nat} (h : textId m = textId n) : m = n :=
  Text.ofNat_inj (List.append_cancel_left h)

theorem attributeId_inj {m n : Nat} {name name' : Text}
    (h : attributeId m name = attributeId n name') : m = n := by
  have hdigits : Text.ofNat m ++ .char ':' :: name = Text.ofNat n ++ .char ':' :: name' := by
    simpa [attributeId, text] using h
  have cut {k : Nat} {t : Text} :
      (Text.ofNat k ++ .char ':' :: t).takeWhile (· ≠ .char ':') = Text.ofNat k := by
    rw [List.takeWhile_append_of_pos, List.takeWhile_cons_of_neg (by simp), List.append_nil]
    intro c hc
    rw [decide_eq_true_eq]
    rintro rfl
    exact Text.not_mem_ofNat (by decide) k hc
  -- no digit is a colon, so the number is what stands before the first one
  have key := congrArg (List.takeWhile (· ≠ CodePoint.char ':')) hdigits
  rw [cut, cut] at key
  exact Text.ofNat_inj key

theorem textId_ne_attributeId {m n : Nat} {name : Text} : textId m ≠ attributeId n name := by
  intro h
  simp [textId, attributeId, text] at h

/-- The identifiers of fields that start at different places differ. -/
theorem start_eq_of_id_eq {s s' : Site} {m n : Nat} (h : (s.fieldAt m).id = (s'.fieldAt n).id) :
    m = n := by
  cases s with
  | text | empty =>
    cases s' with
    | text | empty => exact textId_inj h
    | quoted => exact absurd h textId_ne_attributeId
  | quoted =>
    cases s' with
    | text | empty => exact absurd h.symm textId_ne_attributeId
    | quoted => exact attributeId_inj h

theorem find?_id_eq_some {fields : List Field} {f : Field} (hf : f ∈ fields)
    (hids : fields.Pairwise fun f g => f.id ≠ g.id) :
    fields.find? (fun g => g.id = f.id) = some f := by
  induction fields with
  | nil => cases hf
  | cons g fields ih =>
    obtain ⟨hg, hids⟩ := List.pairwise_cons.1 hids
    rcases List.mem_cons.1 hf with rfl | hf
    · exact List.find?_cons_of_pos (by simp)
    · rw [List.find?_cons_of_neg (by simpa using hg f hf), ih hf hids]

end Field

/-! ## Sorting -/

/-- Sorting leaves nothing to choose where the sorted list is strictly in order. -/
theorem mergeSort_eq_of_perm {α : Type} {le : α → α → Bool} {l sorted : List α}
    (htrans : ∀ a b c, le a b = true → le b c = true → le a c = true)
    (htotal : ∀ a b, (le a b || le b a) = true) (hperm : sorted.Perm l)
    (hsorted : sorted.Pairwise fun a b => le b a = false) : l.mergeSort le = sorted := by
  have hle : sorted.Pairwise fun a b => le a b = true := by
    refine hsorted.imp fun {a b} hab => ?_
    have := htotal a b
    rwa [hab, Bool.or_false] at this
  have : Std.Symm fun a b => le a b = true → le b a = true → a = b :=
    ⟨fun a b h hba hab => (h hab hba).symm⟩
  have hanti : ∀ ⦃a⦄, a ∈ sorted → ∀ ⦃b⦄, b ∈ sorted → le a b = true → le b a = true → a = b := by
    refine List.Pairwise.forall_of_forall (fun a _ _ _ => rfl) (hsorted.imp ?_)
    intro a b hab _ hba
    rw [hab] at hba
    cases hba
  have hperm' := (List.mergeSort_perm l le).trans hperm.symm
  exact hperm'.eq_of_pairwise (fun a b ha hb => hanti (hperm'.mem_iff.1 ha) hb)
    (List.pairwise_mergeSort htrans htotal l) hle

section Restored

variable {rs : List Replacement}

theorem fromTheEnd_eq_of_perm {sorted : List Replacement} (hperm : sorted.Perm rs)
    (hsorted : sorted.Pairwise fun r s => s.Before r) : fromTheEnd rs = sorted := by
  refine mergeSort_eq_of_perm (by simp only [decide_eq_true_eq]; omega)
    (by simp only [Bool.or_eq_true, decide_eq_true_eq]; omega) hperm ?_
  refine hsorted.imp fun {r s} hrs => ?_
  have := hrs.1
  simp only [decide_eq_false_iff_not]
  omega

theorem fromTheEnd_eq_reverse (hrs : rs.Pairwise Replacement.Before) :
    fromTheEnd rs = rs.reverse :=
  fromTheEnd_eq_of_perm (List.reverse_perm rs) (List.pairwise_reverse.2 hrs)

theorem mergeSort_order_eq_of_perm {sorted : List Replacement} (hperm : sorted.Perm rs)
    (hsorted : sorted.Pairwise fun r s => r.order < s.order) :
    (rs.mergeSort fun r s => r.order ≤ s.order) = sorted := by
  refine mergeSort_eq_of_perm (by simp only [decide_eq_true_eq]; omega)
    (by simp only [Bool.or_eq_true, decide_eq_true_eq]; omega) hperm ?_
  refine hsorted.imp fun {r s} hrs => ?_
  simp only [decide_eq_false_iff_not]
  omega

theorem mergeSort_order_eq (hrs : rs.Pairwise fun r s => r.order < s.order) :
    (rs.reverse.mergeSort fun r s => r.order ≤ s.order) = rs :=
  mergeSort_order_eq_of_perm (List.reverse_perm rs).symm hrs

/-! ## Replacements that change nothing -/

theorem not_reaches_of_before {r s : Replacement} (h : s.Before r) :
    s.reaches r.range.start = false := by
  obtain ⟨hstart, hstop⟩ := h
  simp only [Replacement.reaches, Bool.or_eq_false_iff, decide_eq_false_iff_not]
  exact ⟨by omega, by omega⟩

/-- Replacements that stand one behind the other are all kept. -/
theorem keepApart_eq_self {bound : Option Nat} (hrs : rs.Pairwise fun r s => s.Before r)
    (hbound : ∀ r ∈ rs, bound.any r.reaches = false) : keepApart bound rs = (rs, []) := by
  induction rs generalizing bound with
  | nil => rfl
  | cons r rs ih =>
    obtain ⟨hr, hrs⟩ := List.pairwise_cons.1 hrs
    have hnext : ∀ s ∈ rs, (some r.range.start).any s.reaches = false :=
      fun s hs => not_reaches_of_before (hr s hs)
    rw [keepApart, hbound r (.head _), ih hrs hnext]
    rfl

/-- Bytes that are replaced by themselves stay as they are. -/
theorem rebuilt_eq_drop {b : Bytes} {place : Nat} (hrs : rs.Pairwise Replacement.Before)
    (hplace : ∀ r ∈ rs, place ≤ r.range.start) (hstop : ∀ r ∈ rs, r.range.stop ≤ b.length)
    (hwritten : ∀ r ∈ rs, b.slice r.range = r.written) : rebuilt b place rs = b.drop place := by
  induction rs generalizing place with
  | nil => rfl
  | cons r rs ih =>
    obtain ⟨hr, hrs⟩ := List.pairwise_cons.1 hrs
    rw [rebuilt, ih hrs (fun s hs => (hr s hs).2) (fun s hs => hstop s (.tail _ hs))
      fun s hs => hwritten s (.tail _ hs), ← hwritten r (.head _)]
    -- the bytes before the range, those in it, and those behind it
    have hstart : place + (r.range.start - place) = r.range.start :=
      Nat.add_sub_cancel' (hplace r (.head _))
    have hbefore := List.take_append_drop (r.range.start - place) (b.drop place)
    have hbehind := List.take_append_drop r.range.length (b.drop r.range.start)
    rw [List.drop_drop, hstart, ← hbehind, List.drop_drop] at hbefore
    simpa only [Bytes.slice, ByteRange.stop, List.append_assoc] using hbefore

end Restored

/-! ## Fields in their own places -/

/-- The edit that gives a field the value that it has. -/
def Field.unchanged (f : Field) : Edit := ⟨f.id, f.value, f.value⟩

/-- What that edit comes to, at its place in a batch. -/
def Field.restored (f : Field) (order : Nat) : Replacement :=
  ⟨f.range, f.value.bytes, f.unchanged, order⟩

namespace Field

open VisibleText.Document (QuotedAttribute)

section Site

variable {page : Text} {s : Site}

/-- The bytes of a quoted value are the value. -/
theorem slice_valueRange {q : QuotedAttribute} (hq : q.StandsIn page) :
    page.bytes.slice (valueRange q) = q.value.bytes := by
  obtain ⟨front, back, rfl, hfront⟩ := hq.exists_around
  have hvalue : front ++ q.source ++ back =
      front ++ q.head ++ q.value ++ ([q.quote.mark] ++ back) := by
    simp [QuotedAttribute.source]
  have key := Text.slice_bytes_append (front ++ q.head) q.value ([q.quote.mark] ++ back)
  rw [Text.width_append, hfront] at key
  rw [hvalue]
  exact key

/-- The bytes of a site are its value. -/
theorem Site.StandsIn.slice_eq (h : s.StandsIn page) :
    page.bytes.slice s.ownRange = s.value.bytes := by
  cases s with
  | text label value group position =>
    obtain ⟨-, before, after, rfl, rfl⟩ := h
    exact Text.slice_bytes_append before value after
  | quoted group opening position q =>
    obtain ⟨hopens, hq, -⟩ := h
    exact slice_valueRange (hopens.attribute_standsIn hq).1
  | empty group opening position => exact List.take_zero

/-- The quote of a quoted attribute stands right before its value. -/
theorem quoteBefore_valueStart {q : QuotedAttribute} (hq : q.StandsIn page) :
    page.bytes.QuoteBefore q.quote q.valueStart := by
  obtain ⟨front, back, hpage, hfront⟩ := exists_bytes_eq hq
  rw [q.bytes_head] at hpage
  rw [QuotedAttribute.valueStart, ← Text.length_bytes, q.bytes_head, ← hfront]
  exact Bytes.quoteBefore_of_valueHead hpage

/-- What is written into a quoted attribute has the entity of its quote for the quote. -/
theorem escapeQuote_eq {q : QuotedAttribute} (hq : q.StandsIn page) (value : Text) :
    escapeQuote page.bytes q.valueStart value =
      value.substitute q.quote.mark q.quote.entity :=
  (quoteBefore_valueStart hq).escapeQuote_eq value

/-- In the value of a quoted attribute there is nothing to be escaped: it does not hold the quote
that stands before it. -/
theorem escapeQuote_valueStart {q : QuotedAttribute} (hq : q.StandsIn page) :
    escapeQuote page.bytes q.valueStart q.value = q.value :=
  (escapeQuote_eq hq q.value).trans (Text.substitute_of_not_mem hq.value _)

end Site

/-- A field that writes back what it takes: its bytes are its value, and nothing in the value is
to be escaped. -/
structure Restores (b : Bytes) (f : Field) : Prop extends Holds b f where
  slice_eq : b.slice f.range = f.value.bytes
  encodable : f.value.hasSurrogate = false
  written_eq : f.unchanged.written b f = f.value

/-- Sites that are found in their own places give fields that stand one behind the other. -/
theorem pairwise_of_found {g : Ground} {sites : List Site} {low high : Nat}
    (hsites : Apart low (sites.map Site.ownRange) high)
    (hfound : ∀ s ∈ sites, ∀ f, s.field? g = some f → f.range.start = s.ownRange.start) :
    (sites.filterMap (Site.field? g)).Pairwise fun f h =>
      f.range.Before h.range ∧ f.id ≠ h.id := by
  have range_eq {s : Site} (hs : s ∈ sites) {f : Field} (hf : s.field? g = some f) :
      f.range = s.ownRange := by
    have hstart := hfound s hs f hf
    have hlength := Site.length_eq hf
    cases hrange : f.range
    cases hown : s.ownRange
    rw [hrange, hown] at hstart hlength
    simp only at hstart hlength
    rw [hstart, hlength]
  refine List.pairwise_filterMap.2 ((List.pairwise_map.1 hsites.pairwise).imp_of_mem ?_)
  intro s t hs ht hbefore f hf h hh
  rw [← range_eq hs hf, ← range_eq ht hh] at hbefore
  refine ⟨hbefore, fun hid => ?_⟩
  obtain ⟨m, -, rfl⟩ := Site.field?_eq_some hf
  obtain ⟨n, -, rfl⟩ := Site.field?_eq_some hh
  have hlt := hbefore.1
  rw [Site.fieldAt_range, Site.fieldAt_range, start_eq_of_id_eq hid] at hlt
  exact absurd hlt (Nat.lt_irrefl _)

theorem hasSurrogate_decodeLossy (b : Bytes) : b.decodeLossy.hasSurrogate = false := by
  rw [Text.hasSurrogate, List.any_eq_false]
  intro c hc
  obtain ⟨found, -, rfl⟩ := List.mem_map.1 hc
  cases found <;> simp [CodePoint.isSurrogate, CodePoint.replacement]

theorem Holds.encodable {b : Bytes} {f : Field} (h : f.Holds b) :
    f.value.hasSurrogate = false := by
  have hmatches := h.matchesAt
  rw [Bytes.matchesAt, beq_iff_eq] at hmatches
  rw [← hmatches]
  exact hasSurrogate_decodeLossy _

/-- A field in its own place writes back what it takes. -/
theorem restores_of_found {page : Text} {window : Int} {s : Site} {f : Field}
    (hs : s.StandsIn page) (hf : s.field? ⟨page.bytes, window⟩ = some f)
    (hstands : f.StandsIn page) (hfound : f.range.start = s.ownRange.start) :
    f.Restores page.bytes := by
  obtain ⟨start, -, rfl⟩ := Site.field?_eq_some hf
  rw [Site.fieldAt_range] at hfound
  have hrange : (s.fieldAt start).range = s.ownRange := by
    rw [Site.fieldAt_range]
    simp only at hfound
    rw [hfound, ← Site.ownRange_length]
  refine ⟨hstands.toHolds, ?_, hstands.toHolds.encodable, ?_⟩
  · rw [hrange, hs.slice_eq, Site.fieldAt_value]
  · cases s with
    | text | empty => rfl
    | quoted group opening position q =>
      obtain ⟨hopens, hq, -⟩ := hs
      simp only [Site.ownRange] at hfound
      rw [hfound]
      exact escapeQuote_valueStart (hopens.attribute_standsIn hq).1

end Field

/-! ## Writing fields back -/

section Batch

variable {b : Bytes} {reach : Nat} {fields : List Field}

theorem resolve_unchanged {f : Field} (hf : fields.find? (fun g => g.id = f.id) = some f)
    (h : f.Restores b) (order : Nat) :
    f.unchanged.resolve b reach fields order = .ok (f.restored order) := by
  have hrange : f.unchanged.range b reach f = .ok f.range := by
    rw [Edit.range]
    by_cases hempty : f.value = []
    · have hlength := h.length_eq
      rw [hempty, Text.width_nil] at hlength
      have hinsertion : f.unchanged.isInsertion = true := by
        rw [Edit.isInsertion, Field.unchanged, hempty]
        rfl
      rw [if_pos hinsertion, if_pos hlength, ← hlength]
    · have hinsertion : f.unchanged.isInsertion = false := by
        simpa [Edit.isInsertion, Field.unchanged] using hempty
      rw [hinsertion, if_neg Bool.false_ne_true]
      simp only [Field.unchanged, h.matchesAt, if_true, ← h.length_eq]
  have hfind : fields.find? (fun g => g.id = f.unchanged.id) = some f := hf
  rw [Edit.resolve, hfind]
  simp only [Field.unchanged, h.encodable, Bool.or_self, Bool.false_eq_true, if_false]
  rw [← Field.unchanged, hrange]
  simp only [Except.map, h.written_eq]
  rfl

theorem resolveAll_unchanged (hids : fields.Pairwise fun f g => f.id ≠ g.id)
    (hrestores : ∀ f ∈ fields, f.Restores b) :
    resolveAll b reach fields (fields.map Field.unchanged) =
      fields.zipIdx.map fun x => (x.1.unchanged, .ok (x.1.restored x.2)) := by
  rw [resolveAll, List.zipIdx_map, List.map_map]
  refine List.map_congr_left fun x hx => ?_
  have hmem := List.fst_mem_of_mem_zipIdx hx
  have hfind := Field.find?_id_eq_some hmem hids
  simp only [Function.comp_apply, Prod.map_fst, Prod.map_snd, id_eq]
  rw [resolve_unchanged hfind (hrestores x.1 hmem)]

/-- Replacements that stand one behind the other and write what they take are all carried out,
and leave the page as it is. -/
theorem applyTo_eq_of_apart {page : Text} {batch : List Edit} {rs : List Replacement}
    (hpage : page.hasSurrogate = false)
    (hresolved : resolved (resolveAll page.bytes reach fields batch) = rs)
    (hunresolved : unresolved (resolveAll page.bytes reach fields batch) = [])
    (hbefore : rs.Pairwise Replacement.Before)
    (hstop : ∀ r ∈ rs, r.range.stop ≤ page.bytes.length)
    (hwritten : ∀ r ∈ rs, page.bytes.slice r.range = r.written) :
    applyTo page.bytes reach fields batch = .ok ⟨page, rs.map fun r => r.edit.id, []⟩ := by
  have horder : rs.Pairwise fun r s => r.order < s.order :=
    hresolved ▸ resolved_pairwise_order page.bytes reach fields batch
  have hreverse := List.pairwise_reverse.2 hbefore
  have hkept : keepApart none rs.reverse = (rs.reverse, []) :=
    keepApart_eq_self hreverse fun r _ => rfl
  have hsplice : spliceAll page.bytes rs.reverse = page.bytes := by
    rw [spliceAll_eq_rebuilt hreverse fun r hr => hstop r (List.mem_reverse.1 hr),
      List.reverse_reverse, rebuilt_eq_drop hbefore (fun r _ => Nat.zero_le _) hstop hwritten,
      List.drop_zero]
  rw [applyTo]
  simp only [hresolved, hunresolved, fromTheEnd_eq_reverse hbefore, hkept, hsplice,
    decode_bytes hpage, mergeSort_order_eq horder, List.map_nil, List.append_nil]

/-- Fields that stand one behind the other and write back what they take leave a page as it
is. -/
theorem applyTo_unchanged {page : Text} (hpage : page.hasSurrogate = false)
    (hapart : fields.Pairwise fun f g => f.range.Before g.range ∧ f.id ≠ g.id)
    (hstop : ∀ f ∈ fields, f.range.stop ≤ page.width)
    (hrestores : ∀ f ∈ fields, f.Restores page.bytes) :
    applyTo page.bytes reach fields (fields.map Field.unchanged) =
      .ok ⟨page, fields.map Field.id, []⟩ := by
  have hfound : resolveAll page.bytes reach fields (fields.map Field.unchanged) = _ :=
    resolveAll_unchanged (hapart.imp And.right) hrestores
  have hmem : ∀ r ∈ fields.zipIdx.map (fun x => x.1.restored x.2),
      ∃ f ∈ fields, r.range = f.range ∧ r.written = f.value.bytes := by
    intro r hr
    obtain ⟨x, hx, rfl⟩ := List.mem_map.1 hr
    exact ⟨x.1, List.fst_mem_of_mem_zipIdx hx, rfl, rfl⟩
  have hids : (fields.zipIdx.map fun x => x.1.restored x.2).map (fun r => r.edit.id) =
      fields.map Field.id := by
    conv_rhs => rw [← List.zipIdx_map_fst 0 fields]
    rw [List.map_map, List.map_map]
    rfl
  rw [← hids]
  refine applyTo_eq_of_apart hpage ?_ ?_ ?_ (fun r hr => ?_) fun r hr => ?_
  · rw [hfound, resolved_eq, List.filterMap_map]
    exact congrFun List.filterMap_eq_map _
  · rw [hfound, unresolved, List.filterMap_map]
    exact List.filterMap_eq_nil_iff.2 fun x _ => rfl
  · rw [← List.zipIdx_map_fst 0 fields] at hapart
    exact List.pairwise_map.2 ((List.pairwise_map.1 hapart).imp And.left)
  · obtain ⟨f, hf, hrange, -⟩ := hmem r hr
    rw [hrange, Text.length_bytes]
    exact hstop f hf
  · obtain ⟨f, hf, hrange, hwritten⟩ := hmem r hr
    rw [hrange, hwritten]
    exact (hrestores f hf).slice_eq

end Batch

/-- Giving every field of a page the value that it has carries out every edit and leaves the page
as it is, if every field is found in its own place. -/
theorem applyEdits_unchanged (reach : Reach) {source : Text} {d : Document}
    (hsource : source.hasSurrogate = false) (hparse : Document.parse source = .ok d)
    (hfound : ∀ s ∈ Field.sitesOf source, ∀ f,
      s.field? ⟨source.bytes, reach.openTag⟩ = some f → f.range.start = s.ownRange.start) :
    ∃ fields, Field.ofPage reach.openTag source = .ok fields ∧
      applyEdits reach source (fields.map Field.unchanged) =
        .ok ⟨source, fields.map Field.id, []⟩ := by
  have hfields := Field.ofPage_eq_sites reach.openTag hsource hparse
  have hstands := Field.standsIn_of_ofPage hfields
  have hrestores : ∀ f ∈ (Field.sitesOf source).filterMap
      (Field.Site.field? ⟨source.bytes, reach.openTag⟩), f.Restores source.bytes := by
    intro f hf
    obtain ⟨s, hs, hsf⟩ := List.mem_filterMap.1 hf
    exact Field.restores_of_found (Field.standsIn_of_mem_sitesOf hs) hsf (hstands f hf)
      (hfound s hs f hsf)
  have hstop : ∀ f ∈ (Field.sitesOf source).filterMap
      (Field.Site.field? ⟨source.bytes, reach.openTag⟩), f.range.stop ≤ source.width := by
    intro f hf
    rw [ByteRange.stop, (hstands f hf).length_eq]
    exact stop_le_of_matchesAt hsource (hstands f hf).boundary (hstands f hf).matchesAt
  -- sites stand one behind the other, so fields in their places do
  have hapart := Field.pairwise_of_found (Field.sitesOf_apart source) hfound
  refine ⟨_, hfields, ?_⟩
  rw [applyEdits, hfields]
  exact applyTo_unchanged hsource hapart hstop hrestores

/-- Values with quotes and look-alikes in them, and an empty element. -/
theorem applyEdits_unchanged_of_image : ∃ (source : Text) (fields : List Field),
    source = text "<img title=\"see alt='ö'\" alt=\"it's\"><p></p>x" ∧
      (∀ s ∈ Field.sitesOf source, ∀ f, s.field? ⟨source.bytes, 2000⟩ = some f →
        f.range.start = s.ownRange.start) ∧
      Field.ofPage 2000 source = .ok fields ∧
      fields.map Field.range = [⟨12, 12⟩, ⟨31, 4⟩, ⟨40, 0⟩, ⟨44, 1⟩] ∧
      applyEdits .default source (fields.map Field.unchanged) =
        .ok ⟨source, fields.map Field.id, []⟩ := by
  have hrun : ((Field.ofPage 2000
      (text "<img title=\"see alt='ö'\" alt=\"it's\"><p></p>x")).map
      fun fields => fields.map Field.range).toOption =
      some [⟨12, 12⟩, ⟨31, 4⟩, ⟨40, 0⟩, ⟨44, 1⟩] := by
    decide +kernel
  have hsites : ∀ x ∈ (Field.sitesOf
      (text "<img title=\"see alt='ö'\" alt=\"it's\"><p></p>x")).map
        (fun s => (s.ownRange.start, (s.field?
          ⟨(text "<img title=\"see alt='ö'\" alt=\"it's\"><p></p>x").bytes, 2000⟩).map
            fun f => f.range.start)), x.2.all (· = x.1) = true := by
    decide +kernel
  have hfound : ∀ s ∈ Field.sitesOf
      (text "<img title=\"see alt='ö'\" alt=\"it's\"><p></p>x"), ∀ f, s.field?
        ⟨(text "<img title=\"see alt='ö'\" alt=\"it's\"><p></p>x").bytes, 2000⟩ = some f →
          f.range.start = s.ownRange.start := by
    intro s hs f hf
    have key := hsites _ (List.mem_map.2 ⟨s, hs, rfl⟩)
    simp only [hf, Option.map_some, Option.all_some] at key
    exact of_decide_eq_true key
  obtain ⟨fields, hfields, hranges⟩ := Markup.exists_of_map_eq_ok (Markup.eq_ok_of_toOption hrun)
  obtain ⟨d, hparse, hsource, -⟩ := Field.ofPage_eq_ok hfields
  obtain ⟨fields', hfields', happly⟩ := applyEdits_unchanged .default hsource hparse hfound
  obtain rfl := Except.ok.inj (hfields.symm.trans hfields')
  exact ⟨_, fields, rfl, hfound, hfields, hranges, happly⟩

/-- Of edits that take the same bytes at most one is carried out. -/
theorem length_carriedOut_le_one {b : Bytes} {reach : Nat} {fields : List Field}
    {batch : List Edit} {range : ByteRange}
    (h : ∀ x ∈ (resolved (resolveAll b reach fields batch)).map Replacement.range, x = range) :
    (carriedOut b reach fields batch).length ≤ 1 := by
  have hrange : ∀ r ∈ carriedOut b reach fields batch, r.range = range := by
    intro r hr
    have hkept := (keepApart_sublist none _).subset (List.mem_reverse.1 hr)
    exact h r.range (List.mem_map_of_mem ((fromTheEnd_perm _).mem_iff.1 hkept))
  have hapart := carriedOut_pairwise b reach fields batch
  generalize carriedOut b reach fields batch = rs at hrange hapart
  match rs with
  | [] => exact Nat.zero_le 1
  | [_] => exact Nat.le_refl 1
  | r :: s :: _ =>
    have hlt := ((List.pairwise_cons.1 hapart).1 s (.head _)).1
    rw [hrange r (.head _), hrange s (.tail _ (.head _))] at hlt
    exact absurd hlt (Nat.lt_irrefl _)

/-- Giving every field the value that it has need not carry out every edit: two attributes that
read alike, without a blank between them, have fields in one place. -/
theorem not_forall_unchanged : ¬ ∀ (reach : Reach) (source : Text) (fields : List Field),
    source.hasSurrogate = false → Field.ofPage reach.openTag source = .ok fields →
      applyEdits reach source (fields.map Field.unchanged) =
        .ok ⟨source, fields.map Field.id, []⟩ := by
  intro hall
  have hrun : (Field.ofPage 2000 (text "<img alt=\"ab\"alt=\"ab\">")).toOption =
      some [Field.ofAttribute 10 (text "img") (text "alt") (text "ab") [],
        Field.ofAttribute 10 (text "img") (text "alt") (text "ab") []] := by
    decide +kernel
  have hranges : ∀ x ∈ (resolved (resolveAll (text "<img alt=\"ab\"alt=\"ab\">").bytes 200
      [Field.ofAttribute 10 (text "img") (text "alt") (text "ab") [],
        Field.ofAttribute 10 (text "img") (text "alt") (text "ab") []]
      ([Field.ofAttribute 10 (text "img") (text "alt") (text "ab") [],
        Field.ofAttribute 10 (text "img") (text "alt") (text "ab") []].map
          Field.unchanged))).map Replacement.range, x = ⟨10, 2⟩ := by
    decide +kernel
  have hfields := Markup.eq_ok_of_toOption hrun
  have key := hall .default _ _ (by decide) hfields
  obtain ⟨fields, hfields', happly⟩ := exists_fields_of_applyEdits key
  obtain rfl := Except.ok.inj (hfields.symm.trans hfields')
  -- as many edits were applied as there are ranges
  have happlied := congrArg List.length (applyTo_eq_ok happly).2
  simp only [List.length_map, List.length_mergeSort, List.length_reverse] at happlied
  have hle : (carriedOut _ Reach.default.search _ _).length ≤ 1 := length_carriedOut_le_one hranges
  rw [← happlied] at hle
  exact absurd hle (by decide)

end VisibleText
