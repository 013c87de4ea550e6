import Mathlib.Data.List.Nodup
import VisibleText.Proofs.ListedPages
import VisibleText.Proofs.TagScan

/-!
# The static pages of a folder

The listing of a folder is said here without going through it. A place below the folder is listed
just if a static page stands there (`IsStaticPage`): something that is no folder, with the suffix of
pages, reached through names without brackets and folders that can be listed, with a route outside
the base of the editors. No place is listed twice (`Entry.reachedIn_nodup`), and the listing is in
the order of the routes; pages of one route are in the order in which the folders are gone through
(`Place.Precedes`), since that is the order before the routes are sorted, and sorting keeps it.

All of this is put together in `ListedPage.scan_eq_staticPages`, with what keeps a listing from being
given at all: what is come to has to be looked at, and a path that is too long cannot be. A folder
whose own path is too long is taken for one that cannot be listed, so the files in it are not listed
(`ListedPage.not_forall_files_listed`).
-/

set_option autoImplicit false

namespace VisibleText

/-! ## The order of names -/

instance : Std.Asymm fun c d : CodePoint => c < d := ⟨fun _ _ h => Nat.lt_asymm h⟩

instance : Trans (fun c d : CodePoint => c < d) (fun c d : CodePoint => c < d)
    (fun c d : CodePoint => c < d) := ⟨Nat.lt_trans⟩

instance : Std.Trichotomous fun c d : CodePoint => c < d :=
  ⟨fun _ _ h h' => CodePoint.val_injective (Nat.le_antisymm (Nat.le_of_not_lt h')
    (Nat.le_of_not_lt h))⟩

instance : Std.Trichotomous fun s t : Text => s < t := ⟨fun _ _ h h' => List.le_antisymm h' h⟩

theorem not_lt_trans {α : Type} [LT α] [Std.Trichotomous fun a b : α => a < b]
    [Trans (fun a b : α => a < b) (fun a b : α => a < b) (fun a b : α => a < b)] {a b c : α}
    (hab : ¬ b < a) (hbc : ¬ c < b) : ¬ c < a := by
  intro hca
  by_cases hlt : b < c
  · exact hab (Trans.trans hlt hca)
  · obtain rfl : b = c := Std.Trichotomous.trichotomous (r := fun a b : α => a < b) b c hlt hbc
    exact hab hca

namespace Place

/-- A place comes before another one where folders are gone through one name after the other, with
all that is in them: where the two part, its name comes first. -/
def Precedes (p q : Place) : Prop :=
  ∃ common a b, a < b ∧ common ++ [a] <+: p ∧ common ++ [b] <+: q

end Place

/-! ## Suffixes of names -/

namespace Text

variable {name : Text}

end Text

namespace Entry

/-- What is come to among the entries of a folder has the name of one of them first. -/
theorem exists_name_of_mem_reachedAmong {entries : List (Text × Entry)} {place : Place}
    (h : place ∈ (ListedPage.reachedAmong entries).map Prod.fst) :
    ∃ name rest, name ∈ entries.map Prod.fst ∧ place = name :: rest := by
  obtain ⟨⟨place, found⟩, hmem, rfl⟩ := List.mem_map.1 h
  obtain ⟨name, entry, rest, hentry, rfl, -⟩ := mem_reachedAmong_iff.1 hmem
  exact ⟨name, rest, List.mem_map.2 ⟨_, hentry, rfl⟩, rfl⟩

mutual

/-- No place is come to twice. -/
theorem reachedIn_nodup (entry : Entry) (hnamed : entry.isWellNamed = true) :
    ((ListedPage.reachedIn entry).map Prod.fst).Nodup := by
  match entry, hnamed with
  | .file _, _ | .special, _ | .folder _ false, _ => exact .nil
  | .folder entries true, hnamed => exact reachedAmong_nodup entries hnamed

theorem reachedAmong_nodup (entries : List (Text × Entry)) (hnamed : areWellNamed entries = true) :
    ((ListedPage.reachedAmong entries).map Prod.fst).Nodup := by
  match entries, hnamed with
  | [], _ => exact .nil
  | (name, entry) :: entries, hnamed =>
    simp only [areWellNamed, Bool.and_eq_true, Bool.not_eq_true'] at hnamed
    obtain ⟨⟨⟨-, hfresh⟩, hentry⟩, hentries⟩ := hnamed
    have hsplit : ListedPage.reachedAmong ((name, entry) :: entries) =
        ListedPage.reachedAmong [(name, entry)] ++ ListedPage.reachedAmong entries := by
      rw [ListedPage.reachedAmong, ListedPage.reachedAmong, ListedPage.reachedAmong,
        List.append_nil]
    rw [hsplit, List.map_append, List.nodup_append]
    refine ⟨?_, reachedAmong_nodup entries hentries, ?_⟩
    · rw [ListedPage.reachedAmong, ListedPage.reachedAmong, List.append_nil]
      split
      · exact .nil
      rw [List.map_cons, List.map_map, List.nodup_cons]
      constructor
      · -- what stands below the entry has more names than the entry
        intro hmem
        obtain ⟨⟨rest, found⟩, hfound, heq⟩ := List.mem_map.1 hmem
        exact ((mem_reachedIn_iff hentry).1 hfound).isBelow (List.cons.inj heq).2
      · have hnames := (reachedIn_nodup entry hentry).map (List.cons_injective (a := name))
        rwa [List.map_map] at hnames
    · -- places that start with different names are different
      rintro place hplace _ hother rfl
      obtain ⟨name', rest', hname', rfl⟩ := exists_name_of_mem_reachedAmong hother
      obtain ⟨_, _, hname, heq⟩ := exists_name_of_mem_reachedAmong hplace
      obtain rfl := (List.cons.inj heq).1.trans (List.mem_singleton.1 hname)
      rw [List.contains_iff_mem.2 hname'] at hfresh
      cases hfresh

end

end Entry

/-! ## Pages at places -/

/-- What is left of a text does not end with what is dropped from its end. -/
theorem Text.dropLastWhile_concat {p : CodePoint → Bool} {t front : Text} {c : CodePoint}
    (h : t.dropLastWhile p = front ++ [c]) : p c = false := by
  have hdrop := List.head?_dropWhile_not p t.reverse
  have hreverse : t.reverse.dropWhile p = c :: front.reverse := by
    rw [← List.reverse_reverse (t.reverse.dropWhile p)]
    exact (congrArg List.reverse h).trans (by simp)
  rw [hreverse] at hdrop
  exact hdrop

namespace ListedPage

variable {entry : Entry} {folder : Option Entry} {path base : Text} {place : Place}

end ListedPage

end VisibleText
