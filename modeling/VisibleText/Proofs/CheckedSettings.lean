import VisibleText.Proofs.EditorRoutes
import VisibleText.Proofs.MergedObjects
import VisibleText.Proofs.SettingsHistory

/-!
# Settings that were checked give a site

Whatever the settings file and the environment are, if a cache that knows nothing yet loads settings
and checks them, they give a site below any root. Its bounds are whole numbers that are not too
small, its folder of pages and its route of the editors are texts, and all four stand in the
settings (`SettingsCache.checked_load_gives_site`).

The schema asks for a folder and a route, but it asks for no bound. A bound is there because the
defaults have its section, and neither the settings file nor a variable can take the bound out of it
without putting something in place of the section that is no object, and this violates the schema:
something stands at the key of the section, and if it is an object it has the bound
(`Settings.Carries`). Every variable that is laid over settings keeps it so
(`Settings.Carries.putAt`).
-/

set_option autoImplicit false

namespace VisibleText

/-! ## Bounds that are whole numbers -/

/-- A bound is a whole number, with a point or without one. -/
inductive Bound.Is : Bound → Int → Prop where
  | whole (n : Int) : Is (.whole n) n
  | pointed {negative : Bool} {mantissa : Nat} {exponent n : Int}
      (ratio_eq : (Binary64.signedRatio negative mantissa exponent).1 =
        n * (Binary64.signedRatio negative mantissa exponent).2) :
      Is (.pointed (.finite negative mantissa exponent)) n

/-- A bound is a whole number that is not less than another one. -/
structure Bound.IsAtLeast (b : Bound) (least : Int) : Prop where
  exists_whole : ∃ n, b.Is n ∧ least ≤ n

namespace Binary64

variable {x : Binary64} {negative : Bool} {mantissa : Nat} {exponent n least : Int}

theorem isAbove_finite : (finite negative mantissa exponent).isAbove n =
    decide (n * (signedRatio negative mantissa exponent).2 <
      (signedRatio negative mantissa exponent).1) := rfl

theorem isBelow_finite : (finite negative mantissa exponent).isBelow n =
    decide ((signedRatio negative mantissa exponent).1 <
      n * (signedRatio negative mantissa exponent).2) := rfl

theorem signedRatio_snd_pos : 0 < (signedRatio negative mantissa exponent).2 := by
  cases exponent with
  | ofNat k => exact Nat.one_pos
  | negSucc k => exact Nat.mul_pos Nat.one_pos (Nat.pow_pos Nat.two_pos)

/-- A number that counts as whole is one. -/
theorem exists_is_of_isWhole (h : x.isWhole = true) : ∃ n, Bound.Is (.pointed x) n := by
  cases x with
  | infinite | nan => cases h
  | finite negative mantissa exponent =>
    -- it is enough that the denominator divides the numerator without its sign
    have hdvd : ∃ m : Nat,
        (scale 2 exponent mantissa 1).1 = m * (scale 2 exponent mantissa 1).2 := by
      cases exponent with
      | ofNat k => exact ⟨mantissa * 2 ^ k, (Nat.mul_one _).symm⟩
      | negSucc k =>
        obtain ⟨m, hm⟩ := Nat.dvd_of_mod_eq_zero (of_decide_eq_true h)
        refine ⟨m, ?_⟩
        rw [scale, Nat.one_mul, Nat.mul_comm]
        exact hm
    obtain ⟨m, hm⟩ := hdvd
    refine ⟨if negative then -(m : Int) else m, .pointed ?_⟩
    rw [signedRatio]
    simp only [hm]
    cases negative with
    | true => rw [if_pos rfl, if_pos rfl, Int.natCast_mul, Int.neg_mul]
    | false => rfl

theorem le_of_isBelow_eq_false (h : x.isBelow least = false) (hn : Bound.Is (.pointed x) n) :
    least ≤ n := by
  cases hn with
  | @pointed negative mantissa exponent _ ratio_eq =>
    rw [isBelow_finite, ratio_eq, decide_eq_false_iff_not, Int.not_lt] at h
    exact Int.le_of_mul_le_mul_right h (Int.natCast_pos.2 signedRatio_snd_pos)

end Binary64

namespace Bound

variable {b : Bound} {n : Int}

theorem Is.isPositive (h : b.Is n) (hn : 1 ≤ n) : b.isPositive = true := by
  cases h with
  | whole n => exact decide_eq_true hn
  | @pointed negative mantissa exponent n ratio_eq =>
    have habove : (Binary64.finite negative mantissa exponent).isAbove 0 = true := by
      rw [Binary64.isAbove_finite, ratio_eq, decide_eq_true_eq, Int.zero_mul]
      exact Int.mul_pos hn (Int.natCast_pos.2 Binary64.signedRatio_snd_pos)
    exact habove

theorem Is.isNegative_eq_false (h : b.Is n) (hn : 0 ≤ n) : b.isNegative = false := by
  cases h with
  | whole n => exact decide_eq_false (Int.not_lt.2 hn)
  | pointed ratio_eq =>
    rw [isNegative, Binary64.isBelow_finite, ratio_eq, decide_eq_false_iff_not, Int.zero_mul,
      Int.not_lt]
    exact Int.mul_nonneg hn (Int.natCast_nonneg _)

end Bound

/-! ## What the schema asks for -/

namespace Schema

variable {rules : List Rule} {members : Json.Members} {value : Json} {key : Text} {keys : List Text}

/-- A value that has to be of a kind is of it. -/
theorem holds_of_kind {kind : JsonKind} (h : rulesViolations rules value = [])
    (hrule : .kind kind ∈ rules) : kind.holds value = true := by
  have hkind : flatViolations (.kind kind) value = [] := ruleViolations_eq_nil h hrule
  by_contra hnot
  rw [flatViolations, if_neg hnot] at hkind
  cases hkind

/-- A value that has a minimum is not below it. -/
theorem isBelow_eq_false_of_minimum {least : Int} (h : rulesViolations rules value = [])
    (hrule : .minimum least ∈ rules) : isBelow value least = false := by
  have hleast : flatViolations (.minimum least) value = [] := ruleViolations_eq_nil h hrule
  by_contra hbelow
  rw [flatViolations, if_pos (Bool.of_not_eq_false hbelow)] at hleast
  cases hleast

/-- A value that has to be an integer, and not less than some number, is a bound of this kind. -/
theorem exists_bound_of_integer {least : Int}
    (h : rulesViolations [.kind .integer, .minimum least] value = []) :
    ∃ b, Bound.ofJson? value = some b ∧ b.IsAtLeast least := by
  have hkind := holds_of_kind h (.head _)
  have hbelow := isBelow_eq_false_of_minimum h (.tail _ (.head _))
  cases value with
  | null | bool | string | array | object => cases hkind
  | int n => exact ⟨.whole n, rfl, ⟨n, .whole n, Int.not_lt.1 (of_decide_eq_false hbelow)⟩⟩
  | float x =>
    obtain ⟨n, hn⟩ := Binary64.exists_is_of_isWhole hkind
    exact ⟨.pointed x, rfl, ⟨n, hn, Binary64.le_of_isBelow_eq_false hbelow hn⟩⟩

theorem exists_string (h : rulesViolations rules value = []) (hrule : .kind .string ∈ rules) :
    ∃ t, value = .string t := by
  have hkind := holds_of_kind h hrule
  cases value with
  | string t => exact ⟨t, rfl⟩
  | null | bool | int | float | array | object => cases hkind

theorem exists_object (h : rulesViolations rules value = []) (hrule : .kind .object ∈ rules) :
    ∃ members, value = .object members := by
  have hkind := holds_of_kind h hrule
  cases value with
  | object members => exact ⟨members, rfl⟩
  | null | bool | int | float | string | array => cases hkind

/-- A member that is required is there. -/
theorem exists_find?_of_required (h : rulesViolations rules (.object members) = [])
    (hrule : .required keys ∈ rules) (hkey : key ∈ keys) :
    ∃ value, members.find? key = some value := by
  have hrequired : flatViolations (.required keys) (.object members) = [] :=
    ruleViolations_eq_nil h hrule
  rw [flatViolations, List.flatMap_eq_nil_iff] at hrequired
  by_contra hnot
  rw [not_exists, ← Option.eq_none_iff_forall_ne_some] at hnot
  cases hrequired key (List.mem_filter.2 ⟨hkey, Option.isNone_iff_eq_none.2 hnot⟩)

end Schema

/-! ## Sections that keep their settings -/

/-- What is read from the settings file has distinct keys. -/
theorem SettingsSource.hasDistinctKeys_of_read {source : SettingsSource} {disk : Disk}
    {found : Option Json.Members} (h : source.read disk = .ok found) :
    Json.HasDistinctKeys (.object (found.getD [])) := by
  obtain ⟨entry, -, h⟩ := Markup.exists_of_bind_eq_ok h
  split at h
  · split at h
    · cases h
    · cases h
      exact Json.hasDistinctKeys_nil
  · cases h
  · cases h
  · obtain ⟨t, -, h⟩ := Markup.exists_of_bind_eq_ok h
    obtain ⟨members, hparse, h⟩ := Markup.exists_of_bind_eq_ok h
    cases h
    rw [parse] at hparse
    split at hparse
    · split at hparse <;> cases hparse
    · next hread =>
      cases hparse
      exact Json.hasDistinctKeys_of_read hread
    · cases hparse

namespace Settings

variable {env : Environment} {os : List Override} {members laid lower upper : Json.Members}
  {sec key : Text} {value : Json}

/-- Something stands at the key of a section, and if it is an object it has a setting. -/
structure Carries (members : Json.Members) (sec key : Text) : Prop where
  exists_section : ∃ value, members.find? sec = some value
  exists_setting : ∀ inner, members.find? sec = some (.object inner) →
    ∃ value, Json.Members.find? inner key = some value

/-- Where the lower object has a section with a setting, so has the outcome, unless what the upper
one has there is no object. -/
theorem Carries.of_merge (hupper : Json.HasDistinctKeys (.object upper)) {inner : Json.Members}
    (hsection : lower.find? sec = some (.object inner))
    (hkey : Json.Members.find? inner key = some value) : Carries (lower.merge upper) sec key := by
  refine ⟨Json.Members.exists_find?_merge hupper.nodup_keys hsection, ?_⟩
  intro inner' hinner'
  rw [Json.Members.find?_merge hupper.nodup_keys, hsection] at hinner'
  cases hvalue : upper.find? sec with
  | none =>
    rw [hvalue] at hinner'
    cases hinner'
    exact ⟨value, hkey⟩
  | some upon =>
    rw [hvalue, Option.map_some, Option.some_or, Json.Members.laid_of_find? hsection,
      Option.some.injEq] at hinner'
    by_cases hobject : ∃ inner'', upon = .object inner''
    · obtain ⟨inner'', rfl⟩ := hobject
      rw [Json.layOver_object] at hinner'
      cases hinner'
      exact Json.Members.exists_find?_merge (hupper.of_find? hvalue).nodup_keys hkey
    · -- then the outcome is no object either, and nothing is asked of it
      rw [not_exists] at hobject
      rw [Json.layOver_of_not_objects (.inr hobject)] at hinner'
      exact absurd hinner' (hobject inner')

/-- A value that is put at the setting itself, or outside the section, leaves the section with its
setting. -/
theorem Carries.putAt (h : Carries members sec key) {path : List Text}
    (hpath : path = [sec, key] ∨ PartWays [sec] path) (value : Json) :
    Carries (putAt value path members) sec key := by
  rcases hpath with rfl | hparts
  · -- from then on the section is an object, whatever it was before
    have hput : (Settings.putAt value [sec, key] members).find? sec =
        some (.object ((sectionAt members sec).set key value)) := by
      rw [putAt_cons_cons, Json.Members.find?_set, if_pos rfl]
      rfl
    refine ⟨⟨_, hput⟩, ?_⟩
    intro inner hinner
    rw [hput] at hinner
    cases hinner
    refine ⟨value, ?_⟩
    rw [Json.Members.find?_set, if_pos rfl]
  · have hkept : (Settings.putAt value path members).find? sec = members.find? sec := by
      have hfollow := follow?_putAt_of_partWays value hparts members
      rw [Json.follow?_cons, Json.follow?_cons] at hfollow
      simpa only [Json.follow?, Option.bind_fun_some] using hfollow
    exact ⟨hkept ▸ h.exists_section, hkept ▸ h.exists_setting⟩

/-- So variables that change the section at that setting only leave it with the setting. -/
theorem Carries.applyOverrides (h : Carries members sec key)
    (hos : ∀ o ∈ os, o.path = [sec, key] ∨ PartWays [sec] o.path)
    (hlaid : applyOverrides env os members = .ok laid) : Carries laid sec key := by
  induction os generalizing members with
  | nil =>
    cases hlaid
    exact h
  | cons o os ih =>
    obtain ⟨ho, hos⟩ := List.forall_mem_cons.1 hos
    rcases applyOverrides_cons_eq_ok hlaid with ⟨-, hlaid⟩ | ⟨v, value, -, -, hlaid⟩
    · exact ih h hos hlaid
    · exact ih (h.putAt ho value) hos hlaid

/-- A setting that a section carries is there in valid settings, and it keeps its schema. -/
theorem Carries.exists_setting_of_holds {schema : Schema} {schemas : List (Text × List Rule)}
    {rules : List Rule} (h : Carries members sec key)
    (hvalid : schema.holds (.object members) = true) (hrule : .members schemas ∈ schema)
    (hsection : (sec, [.kind .object, .members [(key, rules)]]) ∈ schemas) :
    ∃ value, (Json.object members).follow? [sec, key] = some value ∧
      Schema.rulesViolations rules value = [] := by
  obtain ⟨found, hfound⟩ := h.exists_section
  have hrules := Schema.rulesViolations_eq_nil_of_holds hvalid hrule hsection hfound
  obtain ⟨inner, rfl⟩ := Schema.exists_object hrules (.head _)
  obtain ⟨value, hvalue⟩ := h.exists_setting inner hfound
  refine ⟨value, ?_, ?_⟩
  · rw [Json.follow?_cons, hfound, Option.bind_some, Json.follow?_cons, hvalue]
    rfl
  · have hmembers := Schema.ruleViolations_eq_nil hrules (.tail _ (.head _))
    exact Schema.memberViolations_eq_nil hmembers (.head _) hvalue

end Settings

/-! ## What is given after a check -/

/-- A bound stands in settings, and it is a whole number that is not too small. -/
structure Bound.IsSetting (b : Bound) (settings : Json.Members) (key : String) (least : Int) :
    Prop where
  found : (settings.setting? (text key)).bind ofJson? = some b
  isAtLeast : b.IsAtLeast least

namespace SettingsSource

open Settings

variable {source : SettingsSource} {disk : Disk} {env : Environment} {members : Json.Members}

/-- What a source gives carries a setting of the defaults if no variable changes the section except
at that setting. -/
theorem Gives.carries (h : source.Gives disk env true members) {sec key : Text}
    {inner : Json.Members} {value : Json} (hsection : defaults.find? sec = some (.object inner))
    (hkey : Json.Members.find? inner key = some value)
    (hoverrides : ∀ o ∈ overrides, o.path = [sec, key] ∨ PartWays [sec] o.path) :
    Carries members sec key := by
  obtain ⟨found, hread, hcompose⟩ := h.of_file
  have hlaid := (compose_eq_ok_iff.1 hcompose).2.1
  have hmerged : Carries (defaults.merge (found.getD [])) sec key :=
    .of_merge (hasDistinctKeys_of_read hread) hsection hkey
  exact hmerged.applyOverrides hoverrides hlaid

/-- A bound that the defaults have and the schema knows of is given. -/
theorem Gives.exists_bound (h : source.Gives disk env true members) {sec key : Text}
    {path : String} {inner : Json.Members} {value : Json} {least : Int}
    {schemas : List (Text × List Rule)} (hpath : (text path).splitOn (.char '.') = [sec, key])
    (hsection : defaults.find? sec = some (.object inner))
    (hkey : Json.Members.find? inner key = some value)
    (hoverrides : ∀ o ∈ overrides, o.path = [sec, key] ∨ PartWays [sec] o.path)
    (hrule : .members schemas ∈ schema)
    (hrules : (sec, [.kind .object, .members [(key, [.kind .integer, .minimum least])]]) ∈
      schemas) : ∃ b : Bound, b.IsSetting members path least := by
  obtain ⟨value, hvalue, hinteger⟩ :=
    (h.carries hsection hkey hoverrides).exists_setting_of_holds h.valid hrule hrules
  obtain ⟨b, hb, hleast⟩ := Schema.exists_bound_of_integer hinteger
  refine ⟨b, ⟨?_, hleast⟩⟩
  rw [Json.Members.setting?, hpath, hvalue, Option.bind_some, hb]

/-- A text that the schema requires is given. -/
theorem Gives.exists_text (h : source.Gives disk env true members) {key : String}
    {keys : List Text} {schemas : List (Text × List Rule)} {rules : List Rule}
    (hdot : .char '.' ∉ text key) (hrequired : .required keys ∈ schema) (hkey : text key ∈ keys)
    (hrule : .members schemas ∈ schema) (hrules : (text key, rules) ∈ schemas)
    (hstring : .kind .string ∈ rules) :
    ∃ t, members.setting? (text key) = some (.string t) := by
  have hschema : Schema.rulesViolations schema (.object members) = [] := List.isEmpty_iff.1 h.valid
  obtain ⟨value, hvalue⟩ := Schema.exists_find?_of_required hschema hrequired hkey
  obtain ⟨t, rfl⟩ := Schema.exists_string
    (Schema.rulesViolations_eq_nil_of_holds h.valid hrule hrules hvalue) hstring
  refine ⟨t, ?_⟩
  rw [Json.Members.setting?_eq_find? hdot, hvalue]

end SettingsSource

/-! ## The site of settings -/

namespace Site

variable {root : Place} {settings : Json.Members} {b openTag search : Bound} {key : String}
  {least : Int} {otherwise : Nat}

theorem bound_eq_ok (h : b.IsSetting settings key least) :
    bound settings key otherwise = .ok b := by
  obtain ⟨value, hvalue, hb⟩ := Option.bind_eq_some_iff.1 h.found
  rw [bound, hvalue]
  simp only [hb]

theorem words?_of_setting? {t : Text} (h : settings.setting? (text key) = some (.string t))
    (otherwise : String) : words? settings key otherwise = some t := by
  rw [words?, h]

/-- Settings with bounds that are not too small give a site, whatever else they hold. -/
theorem ofSettings_of_bounds (hopen : openTag.IsSetting settings "extraction.open_tag_window" 1)
    (hsearch : search.IsSetting settings "patching.search_window" 0) (root : Place) :
    ∃ site, ofSettings root settings = .ok site ∧ site.bounds.openTag = openTag ∧
      site.bounds.search = search := by
  obtain ⟨n, hn, hpositive⟩ := hopen.isAtLeast.exists_whole
  obtain ⟨m, hm, hnegative⟩ := hsearch.isAtLeast.exists_whole
  have hbounds : Bounds.ofGiven openTag search =
      .ok ⟨openTag, search, hn.isPositive hpositive, hm.isNegative_eq_false hnegative⟩ := by
    rw [Bounds.ofGiven, dif_pos (hn.isPositive hpositive),
      dif_pos (hm.isNegative_eq_false hnegative)]
  rw [ofSettings, bound_eq_ok hopen, bound_eq_ok hsearch]
  simp only [bind, Except.bind, hn.isPositive hpositive, hbounds]
  exact ⟨_, rfl, rfl, rfl⟩

end Site

namespace SettingsCache

variable {source : SettingsSource} {disk : Disk} {env : Environment} {force : Bool}
  {members : Json.Members}

/-- What a cache that knows nothing yet gives out was put together then, and the cache holds it. -/
theorem gives_and_holds_of_start {validate : Bool}
    (h : ((start source).fetch disk env force validate).1 = .ok members) :
    source.Gives disk env validate members ∧
      ((start source).fetch disk env force validate).2.Holds members := by
  have hfetches := fetches_fetch (start source) disk env force validate
  rw [h] at hfetches
  generalize ((start source).fetch disk env force validate).2 = c at hfetches
  generalize hresult : Except.ok members = result at hfetches
  cases hfetches with
  | kept isLoaded => cases isLoaded
  | wrong | unread => cases hresult
  | loaded members' _ gives holds =>
    cases hresult
    exact ⟨gives, holds⟩

/-- Whatever the settings file and the environment are, if a cache that knows nothing yet loads
settings and checks them, it gives them out from then on, and they give a site below any root. The
bounds of the site are settings, whole numbers of which the one for opening tags is at least one and
the one for searches is not less than zero. Its folder of pages and its route of the editors are
settings as well, both of them texts, and the route starts with a slash. -/
theorem checked_load_gives_site
    (h : ((start source).fetch disk env force true).1 = .ok members) (root : Place) :
    (∀ disk' env', ((start source).fetch disk env force true).2.settings disk' env' =
      (.ok members, ((start source).fetch disk env force true).2)) ∧
    ∃ site folder base, Site.ofSettings root members = .ok site ∧
      site.bounds.openTag.IsSetting members "extraction.open_tag_window" 1 ∧
      site.bounds.search.IsSetting members "patching.search_window" 0 ∧
      members.setting? (text "pages_dir") = some (.string folder) ∧
      site.pagesFolder = some (folder.dropLastWhile (· == .char '/')) ∧
      members.setting? (text "base_path") = some (.string base) ∧
      site.basePath = some base ∧ text "/" <+: base := by
  obtain ⟨gives, holds⟩ := gives_and_holds_of_start h
  refine ⟨fun disk' env' => holds.fetch_eq disk' env' true, ?_⟩
  -- no variable but its own changes the section of a bound
  have hopen : ∃ b : Bound, b.IsSetting members "extraction.open_tag_window" 1 :=
    gives.exists_bound (by decide) rfl rfl (by decide) (.tail _ (.head _))
      (.tail _ (.tail _ (.tail _ (.head _))))
  have hsearch : ∃ b : Bound, b.IsSetting members "patching.search_window" 0 :=
    gives.exists_bound (by decide) rfl rfl (by decide) (.tail _ (.head _))
      (.tail _ (.tail _ (.tail _ (.tail _ (.head _)))))
  -- the schema requires the texts
  have hfolder : ∃ folder, members.setting? (text "pages_dir") = some (.string folder) :=
    gives.exists_text (by decide) (.tail _ (.tail _ (.head _))) (.head _) (.tail _ (.head _))
      (.tail _ (.head _)) (.head _)
  have hbase : ∃ base, members.setting? (text "base_path") = some (.string base) :=
    gives.exists_text (by decide) (.tail _ (.tail _ (.head _))) (.tail _ (.head _))
      (.tail _ (.head _)) (.tail _ (.tail _ (.head _))) (.head _)
  obtain ⟨openTag, hopen⟩ := hopen
  obtain ⟨search, hsearch⟩ := hsearch
  obtain ⟨folder, hfolder⟩ := hfolder
  obtain ⟨base, hbase⟩ := hbase
  obtain ⟨site, hsite, rfl, rfl⟩ := Site.ofSettings_of_bounds hopen hsearch root
  have hfolder' := Site.words?_of_setting? hfolder "src/pages"
  have hbase' := Site.words?_of_setting? hbase "/admin"
  refine ⟨site, folder, base, hsite, hopen, hsearch, hfolder, ?_, hbase, ?_, ?_⟩
  · exact (Site.ofSettings_eq_ok hsite hfolder').2
  · rw [Site.basePath_of_ofSettings hsite, hbase']
  · exact Site.slash_prefix_of_holds gives.valid hbase'

/-- A settings file without a section for the bound of opening tags, which a variable puts there,
and with a point in the bound of searches. -/
theorem checked_load_gives_site_of_replaced_section : ∃ (source : SettingsSource) (disk : Disk)
    (env : Environment) (members : Json.Members) (site : Site),
    ((start source).fetch disk env false true).1 = .ok members ∧
      Site.ofSettings [text "p"] members = .ok site ∧ site.bounds.openTag = .whole 7 ∧
      site.bounds.search.IsSetting members "patching.search_window" 0 ∧
      site.pagesFolder = some (text "site") ∧ site.basePath = some (text "/admin") := by
  let source : SettingsSource := .ofFile [text "p"] none
  let disk : Disk := .folder [(text "p", .folder [(Settings.defaultFile,
    .file (text ("\x7b\"extraction\": null, \"pages_dir\": \"site/\", \"patching\": " ++
      "\x7b\"search_window\": 0.0\x7d\x7d")).bytes)])]
  let env : Environment := [(text "PAGE_TEXT_OPEN_TAG_WINDOW", text "7")]
  have hrun : (((start source).fetch disk env false true).1.toOption.bind fun members =>
      (Site.ofSettings [text "p"] members).toOption.map fun site =>
        (site.bounds.openTag, site.pagesFolder, site.basePath)) =
      some (.whole 7, some (text "site"), some (text "/admin")) := by decide +kernel
  obtain ⟨members, hmembers, hrun⟩ := Option.bind_eq_some_iff.1 hrun
  have hload := Markup.eq_ok_of_toOption hmembers
  obtain ⟨-, site, folder, base, hsite, -, hsearch, -, -, -, -, -⟩ :=
    checked_load_gives_site hload [text "p"]
  rw [hsite] at hrun
  obtain ⟨hopen, hrest⟩ := Prod.mk.inj (Option.some.inj hrun)
  obtain ⟨hfolder, hbase⟩ := Prod.mk.inj hrest
  exact ⟨source, disk, env, members, site, hload, hsite, hopen, hsearch, hfolder, hbase⟩

end SettingsCache

end VisibleText
