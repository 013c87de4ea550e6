import VisibleText.Proofs.SettingsHistory

/-!
# Layers of settings

Settings that are loaded anew come in three layers. The settings file is laid over the defaults, and
the variables of the environment are laid over both, one after the other. A variable may find that
the file has put something else where its section should stand; it then makes the section anew.

The variables do not get in each other's way, because no path of one leads on to that of another one
(`Settings.overrides_pairwise_partWays`). So each of them decides about its own setting, and nothing
changes anywhere else (`SettingsCache.load_layers`).

An integer that a variable should hold and does not is reported before the settings are checked. It
is not if the variable is empty, for then it counts as not set, and not if the settings file is too
deep (`SettingsCache.not_forall_load_reports_variable`).
-/

set_option autoImplicit false

namespace VisibleText

/-! ## Setting one member -/

namespace Json

variable {members : Members} {key k : Text} {value : Json}

theorem Members.find?_cons (k key : Text) (value : Json) (members : Members) :
    Members.find? ((key, value) :: members) k =
      if k = key then some value else members.find? k := by
  rw [find?, List.lookup_cons]
  by_cases h : k = key
  · rw [if_pos h, beq_iff_eq.2 h]
  · rw [if_neg h, beq_eq_false_iff_ne.2 h]
    rfl

/-- Setting a member changes no other one. -/
theorem Members.find?_set : (Members.set key value members).find? k =
    if k = key then some value else members.find? k := by
  induction members with
  | nil => rw [set, find?_cons]
  | cons member members ih =>
    obtain ⟨key', value'⟩ := member
    rw [set]
    split
    · next hkey =>
      rw [find?_cons, find?_cons, hkey]
      split <;> rfl
    · next hkey =>
      rw [find?_cons, ih, find?_cons]
      by_cases h : k = key'
      · rw [if_pos h, if_pos h, if_neg fun heq => hkey (h.symm.trans heq)]
      · rw [if_neg h, if_neg h]

theorem follow?_cons (members : Members) (key : Text) (path : List Text) :
    (object members).follow? (key :: path) =
      (members.find? key).bind fun inner => inner.follow? path := by
  rw [follow?, member?]
  cases members.find? key <;> rfl

theorem follow?_cons_of_not_object {value : Json} (h : ∀ members, value ≠ object members)
    (key : Text) (path : List Text) : value.follow? (key :: path) = none := by
  cases value with
  | object members => exact absurd rfl (h members)
  | null | bool | int | float | string | array => rfl

end Json

/-! ## Putting a setting at a path -/

/-- Of two paths neither leads on to the other one. -/
structure PartWays (p q : List Text) : Prop where
  not_below : ¬ p <+: q
  not_above : ¬ q <+: p

theorem PartWays.symm {p q : List Text} (h : PartWays p q) : PartWays q p :=
  ⟨h.not_above, h.not_below⟩

theorem PartWays.of_cons {key : Text} {p q : List Text} (h : PartWays (key :: p) (key :: q)) :
    PartWays p q :=
  ⟨fun hpq => h.not_below (List.cons_prefix_cons.2 ⟨rfl, hpq⟩),
    fun hqp => h.not_above (List.cons_prefix_cons.2 ⟨rfl, hqp⟩)⟩

instance (p q : List Text) : Decidable (PartWays p q) :=
  decidable_of_iff (¬ p <+: q ∧ ¬ q <+: p) ⟨fun h => ⟨h.1, h.2⟩, fun h => ⟨h.1, h.2⟩⟩

namespace Settings

variable {env : Environment} {os : List Override} {o : Override} {members laid : Json.Members}

/-- The section in which a path of several keys goes on; there may be none yet. -/
def sectionAt (members : Json.Members) (key : Text) : Json.Members :=
  match members.find? key with
  | some (.object inner) => inner
  | _ => []

theorem putAt_cons_cons (value : Json) (key next : Text) (path : List Text)
    (members : Json.Members) : putAt value (key :: next :: path) members =
      members.set key (.object (putAt value (next :: path) (sectionAt members key))) := rfl

/-- A section holds what is found below its key. -/
theorem follow?_sectionAt (members : Json.Members) (key : Text) {path : List Text}
    (h : path ≠ []) : (Json.object (sectionAt members key)).follow? path =
      (Json.object members).follow? (key :: path) := by
  obtain ⟨k, path, rfl⟩ := List.exists_cons_of_ne_nil h
  rw [Json.follow?_cons members, sectionAt]
  split
  · next inner hinner => rw [hinner, Option.bind_some]
  · next hother =>
    cases hfound : members.find? key with
    | none => rfl
    | some value =>
      have hvalue : ∀ inner, value ≠ .object inner := by
        rintro inner rfl
        exact hother inner hfound
      rw [Option.bind_some, Json.follow?_cons_of_not_object hvalue]
      rfl

/-- What was put at a path stands there, whatever stood on the way. -/
theorem follow?_putAt_self (value : Json) {path : List Text} (h : path ≠ [])
    (members : Json.Members) : (Json.object (putAt value path members)).follow? path =
      some value := by
  induction path generalizing members with
  | nil => exact absurd rfl h
  | cons key path ih =>
    cases path with
    | nil => rw [putAt, Json.follow?_cons, Json.Members.find?_set, if_pos rfl]; rfl
    | cons next path =>
      rw [putAt_cons_cons, Json.follow?_cons, Json.Members.find?_set, if_pos rfl]
      exact ih (List.cons_ne_nil _ _) _

/-- Nothing changes at a path that parts ways with the one where something is put. -/
theorem follow?_putAt_of_partWays (value : Json) {path q : List Text} (h : PartWays q path)
    (members : Json.Members) : (Json.object (putAt value path members)).follow? q =
      (Json.object members).follow? q := by
  induction path generalizing q members with
  | nil => exact absurd List.nil_prefix h.not_above
  | cons key path ih =>
    cases q with
    | nil => exact absurd List.nil_prefix h.not_below
    | cons k q =>
      -- paths that start alike part further down, so there is a section to look into
      by_cases hkey : k = key
      · subst hkey
        have hparts : PartWays q path := h.of_cons
        have hq : q ≠ [] := by
          rintro rfl
          exact hparts.not_below List.nil_prefix
        cases path with
        | nil => exact absurd List.nil_prefix hparts.not_above
        | cons next path =>
          rw [putAt_cons_cons, Json.follow?_cons, Json.Members.find?_set, if_pos rfl,
            Option.bind_some, ih hparts, follow?_sectionAt members k hq]
      · have hset (inner : Json) : (Json.object (members.set key inner)).follow? (k :: q) =
            (Json.object members).follow? (k :: q) := by
          rw [Json.follow?_cons, Json.Members.find?_set, if_neg hkey, Json.follow?_cons]
        cases path with
        | nil => exact hset value
        | cons next path => exact hset _

/-! ## Laying variables over settings -/

/-- A variable supplies a value: it is set, and it is not empty. -/
structure Supplies (env : Environment) (o : Override) (v : Text) : Prop where
  is_set : env.find? o.name = some v
  ne_nil : v ≠ []

theorem supplies_iff_active? {v : Text} : Supplies env o v ↔ env.active? o.name = some v := by
  rw [Environment.active?, Option.filter_eq_some_iff, Bool.not_eq_true', List.isEmpty_eq_false_iff]
  exact ⟨fun h => ⟨h.is_set, h.ne_nil⟩, fun h => ⟨h.1, h.2⟩⟩

theorem active?_eq_none_iff : env.active? o.name = none ↔ ∀ v, ¬ Supplies env o v := by
  simp only [supplies_iff_active?, Option.eq_none_iff_forall_ne_some]

/-- A variable supplies a value that should be an integer and is none. -/
structure Unfit (env : Environment) (o : Override) (v : Text) : Prop where
  supplies : Supplies env o v
  is_integer : o.kind = .integer
  no_integer : integer? v = none

theorem Unfit.convert_eq {v : Text} (h : Unfit env o v) :
    convert o.name v o.kind = .error (.notAnInteger o.name v) := by
  rw [h.is_integer]
  simp only [convert, h.no_integer]

/-- A value that fits is read. -/
theorem exists_convert_of_not_unfit {v : Text} (h : Supplies env o v) (hfit : ¬ Unfit env o v) :
    ∃ value, convert o.name v o.kind = .ok value := by
  cases hkind : o.kind with
  | string => exact ⟨_, rfl⟩
  | integer =>
    cases hn : integer? v with
    | some n => exact ⟨.int n, by simp only [convert, hn]⟩
    | none => exact absurd ⟨h, hkind, hn⟩ hfit

/-- What laying one variable over settings does: nothing if it supplies no value, else it puts the
value at its path. -/
theorem applyOverrides_cons_eq_ok (h : applyOverrides env (o :: os) members = .ok laid) :
    (∀ v, ¬ Supplies env o v) ∧ applyOverrides env os members = .ok laid ∨
      ∃ v value, Supplies env o v ∧ convert o.name v o.kind = .ok value ∧
        applyOverrides env os (putAt value o.path members) = .ok laid := by
  rw [applyOverrides] at h
  split at h
  · next hnone => exact .inl ⟨active?_eq_none_iff.1 hnone, h⟩
  · next v hactive =>
    obtain ⟨value, hvalue, h⟩ := Markup.exists_of_bind_eq_ok h
    exact .inr ⟨v, value, supplies_iff_active?.2 hactive, hvalue, h⟩

/-- Nothing changes at a path that parts ways with those of all variables. -/
theorem follow?_applyOverrides_of_partWays {path : List Text}
    (h : applyOverrides env os members = .ok laid) (hpath : ∀ o ∈ os, PartWays path o.path) :
    (Json.object laid).follow? path = (Json.object members).follow? path := by
  induction os generalizing members with
  | nil =>
    cases h
    rfl
  | cons o os ih =>
    have hrest : ∀ p ∈ os, PartWays path p.path := fun p hp => hpath p (.tail _ hp)
    rcases applyOverrides_cons_eq_ok h with ⟨-, h⟩ | ⟨v, value, -, -, h⟩
    · exact ih h hrest
    · rw [ih h hrest, follow?_putAt_of_partWays value (hpath o (.head _))]

/-- Variables with paths that part ways decide each about its own setting. -/
theorem follow?_applyOverrides (h : applyOverrides env os members = .ok laid)
    (hparts : os.Pairwise fun o p => PartWays o.path p.path) (hne : ∀ o ∈ os, o.path ≠ [])
    (ho : o ∈ os) :
    (∀ v, Supplies env o v → ∃ value, convert o.name v o.kind = .ok value ∧
      (Json.object laid).follow? o.path = some value) ∧
    ((∀ v, ¬ Supplies env o v) →
      (Json.object laid).follow? o.path = (Json.object members).follow? o.path) := by
  induction os generalizing members with
  | nil => cases ho
  | cons p os ih =>
    obtain ⟨hp, hparts⟩ := List.pairwise_cons.1 hparts
    have hne' : ∀ q ∈ os, q.path ≠ [] := fun q hq => hne q (.tail _ hq)
    rcases List.mem_cons.1 ho with rfl | ho
    · -- those that follow leave the setting of the first one alone
      rcases applyOverrides_cons_eq_ok h with ⟨hnone, h⟩ | ⟨v, value, hv, hvalue, h⟩
      · exact ⟨fun v hv => absurd hv (hnone v), fun _ => follow?_applyOverrides_of_partWays h hp⟩
      · refine ⟨fun w hw => ?_, fun hnone => absurd hv (hnone v)⟩
        obtain rfl : v = w := Option.some.inj (hv.is_set.symm.trans hw.is_set)
        refine ⟨value, hvalue, ?_⟩
        rw [follow?_applyOverrides_of_partWays h hp, follow?_putAt_self value (hne o (.head _))]
    · rcases applyOverrides_cons_eq_ok h with ⟨-, h⟩ | ⟨v, value, -, -, h⟩
      · exact ih h hparts hne' ho
      · obtain ⟨hsupplied, hunsupplied⟩ := ih h hparts hne' ho
        refine ⟨hsupplied, fun hnone => ?_⟩
        rw [hunsupplied hnone, follow?_putAt_of_partWays value (hp o ho).symm]

/-- If some variable does not fit, the first one that does not is reported. -/
theorem applyOverrides_eq_error (h : ∃ o ∈ os, ∃ v, Unfit env o v) :
    ∃ before o after v, os = before ++ o :: after ∧ Unfit env o v ∧
      (∀ p ∈ before, ∀ w, ¬ Unfit env p w) ∧
      ∀ members, applyOverrides env os members = .error (.notAnInteger o.name v) := by
  induction os with
  | nil =>
    obtain ⟨o, ho, -⟩ := h
    cases ho
  | cons p os ih =>
    by_cases hp : ∃ w, Unfit env p w
    · obtain ⟨w, hw⟩ := hp
      refine ⟨[], p, os, w, rfl, hw, nofun, fun members => ?_⟩
      rw [applyOverrides, supplies_iff_active?.1 hw.supplies]
      simp only [hw.convert_eq]
      rfl
    · rw [not_exists] at hp
      have hrest : ∃ o ∈ os, ∃ v, Unfit env o v := by
        obtain ⟨o, ho, v, hv⟩ := h
        rcases List.mem_cons.1 ho with rfl | ho
        · exact absurd hv (hp v)
        · exact ⟨o, ho, v, hv⟩
      obtain ⟨before, o, after, v, rfl, hv, hbefore, herror⟩ := ih hrest
      refine ⟨p :: before, o, after, v, rfl, hv, List.forall_mem_cons.2 ⟨hp, hbefore⟩, ?_⟩
      intro members
      rw [applyOverrides]
      cases hactive : env.active? p.name with
      | none => exact herror members
      | some w =>
        obtain ⟨value, hvalue⟩ :=
          exists_convert_of_not_unfit (supplies_iff_active?.2 hactive) (hp w)
        simp only [hvalue]
        exact herror _

/-- If every variable fits, all of them are laid over settings. -/
theorem exists_applyOverrides (h : ∀ o ∈ os, ∀ v, ¬ Unfit env o v) (members : Json.Members) :
    ∃ laid, applyOverrides env os members = .ok laid := by
  induction os generalizing members with
  | nil => exact ⟨members, rfl⟩
  | cons o os ih =>
    have hrest : ∀ p ∈ os, ∀ v, ¬ Unfit env p v := fun p hp => h p (.tail _ hp)
    rw [applyOverrides]
    cases hactive : env.active? o.name with
    | none => exact ih hrest members
    | some v =>
      obtain ⟨value, hvalue⟩ :=
        exists_convert_of_not_unfit (supplies_iff_active?.2 hactive) (h o (.head _) v)
      simp only [hvalue]
      exact ih hrest _

/-- No setting that a variable overrides stands in another one. -/
theorem overrides_pairwise_partWays :
    overrides.Pairwise fun o p => PartWays o.path p.path := by decide

theorem path_ne_nil_of_mem_overrides (h : o ∈ overrides) : o.path ≠ [] := by
  have hall : ∀ o ∈ overrides, o.path ≠ [] := by decide
  exact hall o h

/-- What is known to override settings is what supplies a value. -/
theorem mem_activeOverrides_iff :
    o ∈ activeOverrides env ↔ o ∈ overrides ∧ ∃ v, Supplies env o v := by
  simp only [activeOverrides, List.mem_filter, Option.isSome_iff_exists, supplies_iff_active?]

/-- Settings with the variables of an environment laid over others: each variable that supplies a
value decides about its own setting, and nothing else changes. -/
structure LaidOver (env : Environment) (members laid : Json.Members) : Prop where
  supplied : ∀ o ∈ overrides, ∀ v, Supplies env o v →
    ∃ value, convert o.name v o.kind = .ok value ∧ (Json.object laid).follow? o.path = some value
  not_supplied : ∀ o ∈ overrides, (∀ v, ¬ Supplies env o v) →
    (Json.object laid).follow? o.path = (Json.object members).follow? o.path
  elsewhere : ∀ path, (∀ o ∈ overrides, PartWays path o.path) →
    (Json.object laid).follow? path = (Json.object members).follow? path

theorem laidOver_of_withEnvironment (h : withEnvironment env members = .ok laid) :
    LaidOver env members laid where
  supplied _ ho := (follow?_applyOverrides h overrides_pairwise_partWays
    (fun _ => path_ne_nil_of_mem_overrides) ho).1
  not_supplied _ ho := (follow?_applyOverrides h overrides_pairwise_partWays
    (fun _ => path_ne_nil_of_mem_overrides) ho).2
  elsewhere _ hpath := follow?_applyOverrides_of_partWays h hpath

end Settings

/-! ## Loading -/

namespace SettingsCache

open Settings

variable {source : SettingsSource} {disk : Disk} {env : Environment} {validate : Bool}
  {found : Option Json.Members}

/-- What a load comes to when the settings file was read, or when there is none. -/
theorem load_of_read (hread : source.read disk = .ok found) (env : Environment)
    (validate : Bool) :
    ((start source).load disk env validate).1 = source.compose env validate (found.getD []) := by
  have hsource : (start source).source = source := rfl
  rw [load, hsource, hread]
  simp only
  split <;> next hcompose => exact hcompose.symm

theorem check_eq_error {file : Text} {value : Json} {fault : SettingsFault}
    (h : check file value = .error fault) : ∃ violation, fault = .violated file violation := by
  rw [check] at h
  split at h
  · cases h
  · next violation _ =>
    cases h
    exact ⟨violation, rfl⟩

/-- Settings that were put together are given out, unless a check is asked for and they violate the
schema. -/
theorem compose_of_withEnvironment {members laid : Json.Members}
    (hdepth : (Json.object members).depth ≤ Json.deepestCopied)
    (h : withEnvironment env (Settings.defaults.merge members) = .ok laid) :
    source.compose env validate members = .ok laid ∨
      validate = true ∧ Settings.schema.holds (.object laid) = false ∧ ∃ violation,
        source.compose env validate members =
          .error (.settings (.violated source.file violation)) := by
  rw [SettingsSource.compose_eq env validate hdepth, h]
  cases validate with
  | false => exact .inl rfl
  | true =>
    have hrun : (do
        let settings ← Except.ok laid
        if true then check source.file (.object settings)
        return settings) = check source.file (.object laid) >>= fun _ => .ok laid := rfl
    rw [hrun]
    cases hcheck : check source.file (.object laid) with
    | ok => exact .inl rfl
    | error fault =>
      right
      obtain ⟨violation, rfl⟩ := check_eq_error hcheck
      refine ⟨rfl, ?_, violation, rfl⟩
      rw [← Bool.not_eq_true, ← check_eq_ok_iff, hcheck]
      exact nofun

/-- If a cache that knows nothing yet loads settings, the variables of the environment are laid over
what the settings file makes of the defaults, and just those that supply a value count as overriding
something. If one of them should be an integer and is not, the first such one is reported, unless
the settings file is too deep; otherwise only a check can refuse the settings. -/
theorem load_layers (hread : source.read disk = .ok found) (env : Environment)
    (validate : Bool) :
    (∀ members, ((start source).load disk env validate).1 = .ok members →
      LaidOver env (Settings.defaults.merge (found.getD [])) members) ∧
    (∀ o, o ∈ activeOverrides env ↔ o ∈ overrides ∧ ∃ v, Supplies env o v) ∧
    ((Json.object (found.getD [])).depth ≤ Json.deepestCopied →
      (∃ o ∈ overrides, ∃ v, Unfit env o v) →
      ∃ before o after v, overrides = before ++ o :: after ∧ Unfit env o v ∧
        (∀ p ∈ before, ∀ w, ¬ Unfit env p w) ∧
        ((start source).load disk env validate).1 =
          .error (.settings (.notAnInteger o.name v))) ∧
    ((Json.object (found.getD [])).depth ≤ Json.deepestCopied →
      (∀ o ∈ overrides, ∀ v, ¬ Unfit env o v) →
        ∃ laid, LaidOver env (Settings.defaults.merge (found.getD [])) laid ∧
          (((start source).load disk env validate).1 = .ok laid ∨
            validate = true ∧ Settings.schema.holds (.object laid) = false ∧
              ∃ violation, ((start source).load disk env validate).1 =
                .error (.settings (.violated source.file violation)))) := by
  rw [load_of_read hread]
  refine ⟨fun members hload => ?_, fun o => mem_activeOverrides_iff, fun hdepth hunfit => ?_,
    fun hdepth hfit => ?_⟩
  · exact laidOver_of_withEnvironment (SettingsSource.compose_eq_ok_iff.1 hload).2.1
  · obtain ⟨before, o, after, v, hsplit, hv, hbefore, herror⟩ := applyOverrides_eq_error hunfit
    refine ⟨before, o, after, v, hsplit, hv, hbefore, ?_⟩
    rw [SettingsSource.compose_eq env validate hdepth, withEnvironment, herror]
    rfl
  · obtain ⟨laid, hlaid⟩ := exists_applyOverrides hfit (Settings.defaults.merge (found.getD []))
    exact ⟨laid, laidOver_of_withEnvironment hlaid, compose_of_withEnvironment hdepth hlaid⟩

/-- A settings file that has no section for the log. A level for the log makes one, but a level and
no integer for the search are refused. -/
theorem load_layers_of_replaced_section :
    let source : SettingsSource := .ofFile [text "p"] none
    let disk : Disk := .folder [(text "p", .folder [(Settings.defaultFile,
      .file (text "\x7b\"logging\": null\x7d").bytes)])]
    let level : Environment := [(text "PAGE_TEXT_LOG_LEVEL", text "DEBUG")]
    let levelAndSearch : Environment := level ++ [(text "PAGE_TEXT_SEARCH_WINDOW", text "x")]
    (∃ members, ((start source).load disk level true).1 = .ok members ∧
      (Json.object members).follow? [text "logging", text "level"] =
        some (.string (text "DEBUG"))) ∧
    ((start source).load disk levelAndSearch true).1 =
      .error (.settings (.notAnInteger (text "PAGE_TEXT_SEARCH_WINDOW") (text "x"))) := by
  intro source disk level levelAndSearch
  have hread : ((source.read disk).toOption.map fun found =>
      decide ((Json.object (found.getD [])).depth ≤ Json.deepestCopied)) = some true := by decide +kernel
  obtain ⟨found, hread, hdepth⟩ := Option.map_eq_some_iff.1 hread
  have hread : source.read disk = .ok found := Markup.eq_ok_of_toOption hread
  constructor
  · have hload : ((start source).load disk level true).1.toOption.isSome = true := by
      decide +kernel
    obtain ⟨members, hmembers⟩ := Option.isSome_iff_exists.1 hload
    have hmembers : ((start source).load disk level true).1 = .ok members :=
      Markup.eq_ok_of_toOption hmembers
    have hlaid := (load_layers hread level true).1 members hmembers
    let o : Override := ⟨text "PAGE_TEXT_LOG_LEVEL", [text "logging", text "level"], .string⟩
    have ho : o ∈ overrides := .tail _ (.tail _ (.head _))
    obtain ⟨value, hvalue, hfollow⟩ := hlaid.supplied o ho (text "DEBUG") ⟨rfl, by decide⟩
    cases hvalue
    exact ⟨members, hmembers, hfollow⟩
  · let o : Override :=
      ⟨text "PAGE_TEXT_SEARCH_WINDOW", [text "patching", text "search_window"], .integer⟩
    have ho : o ∈ overrides := .tail _ (.tail _ (.tail _ (.tail _ (.tail _ (.head _)))))
    have hunfit : Unfit levelAndSearch o (text "x") := ⟨⟨rfl, by decide⟩, rfl, by decide⟩
    obtain ⟨before, p, after, v, hsplit, hp, -, hresult⟩ :=
      (load_layers hread levelAndSearch true).2.2.1 (of_decide_eq_true hdepth) ⟨o, ho, _, hunfit⟩
    have hmem : p ∈ overrides := hsplit ▸ List.mem_append_right _ (.head _)
    simp only [overrides, List.mem_cons, List.not_mem_nil, or_false] at hmem
    rcases hmem with rfl | rfl | rfl | rfl | rfl | rfl
    · cases hp.is_integer
    · cases hp.is_integer
    · cases hp.is_integer
    · cases hp.is_integer
    · cases hp.supplies.is_set
    · cases hp.supplies.is_set
      exact hresult

/-- Whether a load reports a variable that should be an integer and is not. -/
def reportsVariable : Except LoadError Json.Members → Bool
  | .error (.settings (.notAnInteger _ _)) => true
  | _ => false

/-- A settings file in which as many arrays stand in each other as a load can go through. An
object stands around them. -/
def deepFile : Bytes :=
  (text "\x7b\"a\": " ++ List.replicate Json.deepestCopied (CodePoint.char '[') ++
    List.replicate Json.deepestCopied (CodePoint.char ']') ++ text "\x7d").bytes

/-- An integer that a variable should hold and does not is not always reported: not if the variable
is empty, not if the settings file is too deep, and not if the one that was asked for is missing. -/
theorem not_forall_load_reports_variable :
    (¬ ∀ (source : SettingsSource) (disk : Disk) (env : Environment)
      (found : Option Json.Members), source.read disk = .ok found →
        (∃ o ∈ overrides, ∃ v, env.find? o.name = some v ∧ o.kind = .integer ∧
          integer? v = none) →
        reportsVariable ((start source).load disk env true).1 = true) ∧
    (¬ ∀ (source : SettingsSource) (disk : Disk) (env : Environment)
      (found : Option Json.Members), source.read disk = .ok found →
        (∃ o ∈ overrides, ∃ v, Unfit env o v) →
        reportsVariable ((start source).load disk env true).1 = true) ∧
    ¬ ∀ (source : SettingsSource) (disk : Disk) (env : Environment),
      source.find disk = .ok none → (∃ o ∈ overrides, ∃ v, Unfit env o v) →
        reportsVariable ((start source).load disk env true).1 = true := by
  let o : Override :=
    ⟨text "PAGE_TEXT_SEARCH_WINDOW", [text "patching", text "search_window"], .integer⟩
  have ho : o ∈ overrides := .tail _ (.tail _ (.tail _ (.tail _ (.tail _ (.head _)))))
  let env : Environment := [(text "PAGE_TEXT_SEARCH_WINDOW", text "x")]
  have hunfit : ∃ o ∈ overrides, ∃ v, Unfit env o v :=
    ⟨o, ho, text "x", ⟨rfl, by decide⟩, rfl, by decide⟩
  refine ⟨fun h => ?_, fun h => ?_, fun h => ?_⟩
  · let source : SettingsSource := .ofFile [text "p"] none
    let empty : Environment := [(text "PAGE_TEXT_SEARCH_WINDOW", [])]
    have hreport := h source (.folder []) empty none rfl ⟨o, ho, [], rfl, rfl, by decide⟩
    have hload : reportsVariable ((start source).load (.folder []) empty true).1 = false := by
      decide +kernel
    cases hload.symm.trans hreport
  · let source : SettingsSource := .ofFile [text "p"] none
    let disk : Disk := .folder [(text "p", .folder [(Settings.defaultFile, .file deepFile)])]
    have hread : (source.read disk).toOption.isSome = true := by decide +kernel
    obtain ⟨found, hfound⟩ := Option.isSome_iff_exists.1 hread
    have hreport := h source disk env found (Markup.eq_ok_of_toOption hfound) hunfit
    have hload : reportsVariable ((start source).load disk env true).1 = false := by
      decide +kernel
    cases hload.symm.trans hreport
  · let source : SettingsSource := .ofFile [text "p"] (some (text "none.json"))
    have hreport := h source (.folder []) env rfl hunfit
    have hload : reportsVariable ((start source).load (.folder []) env true).1 = false := by
      decide +kernel
    cases hload.symm.trans hreport

end SettingsCache

end VisibleText
