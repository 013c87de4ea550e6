import Mathlib.Data.List.Induction
import VisibleText.Proofs.Reading
import VisibleText.Settings.Cache

/-!
# Settings that were checked

A cache of settings is asked again and again, while the settings file and the environment change as
they like. A load that checks gives settings that keep the schema whenever it puts them together
itself (`SettingsSource.Gives.valid`). Where it answers from the cache it checks nothing: it gives
whatever the last load has put there, and that may have been one without a check
(`SettingsCache.not_forall_valid`).

So settings that violate the schema are given just while the cache holds what such a load has put
there (`SettingsCache.checked_loads_valid_iff`).
-/

set_option autoImplicit false

namespace VisibleText

/-! ## How deep objects are that are laid over others -/

namespace Json

theorem depth_le_of_find? {members : Members} {key : Text} {value : Json}
    (h : members.find? key = some value) : value.depth ≤ depthOfMembers members := by
  induction members with
  | nil => cases h
  | cons first members ih =>
    obtain ⟨k, v⟩ := first
    rw [depthOfMembers]
    rw [Members.find?, List.lookup_cons] at h
    split at h
    · cases h
      exact Nat.le_max_left _ _
    · exact Nat.le_trans (ih h) (Nat.le_max_right _ _)

theorem depthOfMembers_set_le (key : Text) (value : Json) (members : Members) :
    depthOfMembers (Members.set key value members) ≤
      max value.depth (depthOfMembers members) := by
  induction members with
  | nil => exact Nat.le_refl _
  | cons first members ih =>
    obtain ⟨k, v⟩ := first
    rw [Members.set]
    split <;> simp only [depthOfMembers] <;> omega

mutual

/-- What is laid over something makes it no deeper than the deeper one of the two. -/
theorem depth_layOver_le (lower upper : Json) :
    (layOver lower upper).depth ≤ max lower.depth upper.depth := by
  match upper with
  | object upper =>
    cases lower with
    | object lower =>
      have hmembers := depthOfMembers_layMembers_le lower upper
      simp only [layOver, depth]
      omega
    | null | bool | int | float | string | array => exact Nat.le_max_right _ _
  | null | bool _ | int _ | float _ | string _ | array _ => exact Nat.le_max_right _ _

theorem depthOfMembers_layMembers_le (lower : Members) (upper : List (Text × Json)) :
    depthOfMembers (layMembers lower upper) ≤
      max (depthOfMembers lower) (depthOfMembers upper) := by
  match upper with
  | [] => exact Nat.le_max_left _ _
  | (key, value) :: upper =>
    rw [layMembers, depthOfMembers]
    refine Nat.le_trans (depthOfMembers_layMembers_le _ upper) ?_
    cases hbelow : Members.find? lower key with
    | none =>
      have hset := depthOfMembers_set_le key value lower
      dsimp only
      omega
    | some below =>
      have hlaid := depth_layOver_le below value
      have hdepth := depth_le_of_find? hbelow
      have hset := depthOfMembers_set_le key (layOver below value) lower
      dsimp only
      omega

end

theorem Members.copied_eq_ok {members : Members} (h : (object members).depth ≤ deepestCopied) :
    members.copied = .ok members := if_neg (Nat.not_lt.2 h)

theorem Members.copied_eq_error {members : Members}
    (h : deepestCopied < (object members).depth) : members.copied = .error (.tooDeep true) :=
  if_pos h

end Json

/-! ## Putting settings together -/

/-- What has no foremost violation violates nothing. -/
theorem Violation.foremost?_eq_none_iff {violations : List Violation} :
    Violation.foremost? violations = none ↔ violations = [] := by
  cases violations with
  | nil => exact iff_of_true rfl rfl
  | cons v violations => exact iff_of_false (Option.some_ne_none _) (List.cons_ne_nil _ _)

/-- Settings pass the check just if they keep the schema. -/
theorem Settings.check_eq_ok_iff {file : Text} {value : Json} :
    Settings.check file value = .ok () ↔ Settings.schema.holds value = true := by
  rw [Schema.holds, List.isEmpty_iff, ← Violation.foremost?_eq_none_iff, Settings.check]
  cases Violation.foremost? (Settings.schema.violations value) with
  | none => exact iff_of_true rfl rfl
  | some violation => exact iff_of_false nofun nofun

namespace SettingsSource

variable {source : SettingsSource} {disk : Disk} {env : Environment} {validate : Bool}
  {members laid : Json.Members}

theorem compose_of_too_deep (env : Environment) (validate : Bool)
    (h : Json.deepestCopied < (Json.object members).depth) :
    source.compose env validate members = .error (.refused (.tooDeep true)) := by
  rw [compose, Json.Members.merged, Json.Members.copied_eq_error h]
  rfl

/-- Settings that can be copied are laid over the defaults, and the environment over what comes out
there, which can be copied as well. -/
theorem compose_eq (env : Environment) (validate : Bool)
    (h : (Json.object members).depth ≤ Json.deepestCopied) :
    source.compose env validate members =
      (do let settings ← Settings.withEnvironment env (Settings.defaults.merge members)
          if validate then Settings.check source.file (.object settings)
          return settings).mapError .settings := by
  have hdefaults : (Json.object Settings.defaults).depth ≤ Json.deepestCopied := by decide
  have hmerged : (Json.object (Settings.defaults.merge members)).depth ≤ Json.deepestCopied := by
    have hdepth := Json.depthOfMembers_layMembers_le Settings.defaults members
    simp only [Json.depth, Json.Members.merge] at h hdefaults ⊢
    omega
  rw [compose, Json.Members.merged, Json.Members.copied_eq_ok h,
    Json.Members.copied_eq_ok hdefaults]
  simp only [Settings.overridden, bind, Except.bind, pure, Except.pure, Except.mapError,
    Json.Members.copied_eq_ok hmerged]
  cases Settings.withEnvironment env (Settings.defaults.merge members) with
  | error fault => rfl
  | ok settings =>
    cases validate with
    | false => rfl
    | true => cases hcheck : Settings.check source.file (.object settings) <;> simp [hcheck]

/-- Settings are put together just if they can be copied, every variable can be used, and a check
that is asked for finds nothing. -/
theorem compose_eq_ok_iff :
    source.compose env validate members = .ok laid ↔
      (Json.object members).depth ≤ Json.deepestCopied ∧
        Settings.withEnvironment env (Settings.defaults.merge members) = .ok laid ∧
          (validate = true → Settings.schema.holds (.object laid) = true) := by
  rcases Nat.lt_or_ge Json.deepestCopied (Json.object members).depth with hdeep | hdepth
  · rw [compose_of_too_deep env validate hdeep]
    exact iff_of_false nofun fun h => absurd h.1 (Nat.not_le.2 hdeep)
  have hholds : Settings.schema.holds (.object laid) = true ↔
      Settings.check source.file (.object laid) = .ok () := Settings.check_eq_ok_iff.symm
  rw [compose_eq env validate hdepth, hholds]
  simp only [hdepth, true_and]
  cases Settings.withEnvironment env (Settings.defaults.merge members) with
  | error fault => exact iff_of_false nofun fun h => nomatch h.1
  | ok settings =>
    cases validate with
    | false => simp [bind, Except.bind, pure, Except.pure, Except.mapError]
    | true =>
      cases hcheck : Settings.check source.file (.object settings) with
      | error fault =>
        refine iff_of_false (fun h => ?_) fun h => ?_
        · simp [bind, Except.bind, hcheck, Except.mapError] at h
        · cases h.1
          cases hcheck.symm.trans (h.2 rfl)
      | ok u =>
        simp only [bind, Except.bind, pure, Except.pure, hcheck, Except.mapError, if_true,
          Except.ok.injEq, forall_const]
        exact ⟨fun h => ⟨h, h ▸ hcheck⟩, fun h => h.1⟩

/-- Settings that a source gives on a disk and in an environment, with a check or without one. -/
structure Gives (source : SettingsSource) (disk : Disk) (env : Environment) (validate : Bool)
    (members : Json.Members) : Prop where
  of_file : ∃ found, source.read disk = .ok found ∧
    source.compose env validate (found.getD []) = .ok members

/-- Settings that were checked keep the schema. -/
theorem Gives.valid (h : source.Gives disk env true members) :
    Settings.schema.holds (.object members) = true := by
  obtain ⟨found, -, hcompose⟩ := h.of_file
  exact (compose_eq_ok_iff.1 hcompose).2.2 rfl

end SettingsSource

/-! ## What a cache does -/

namespace SettingsCache

/-- Whether a cache answers with some settings until it is told to load again. -/
structure Holds (c : SettingsCache) (members : Json.Members) : Prop where
  isLoaded : c.isLoaded = true
  members_eq : c.members = members

/-- What comes out when settings are fetched, and the cache behind it. A load that finds the
settings wrong leaves nothing in service; one that cannot read their file at all leaves what was
there. -/
inductive Fetches (c : SettingsCache) (disk : Disk) (env : Environment) (force validate : Bool) :
    Except LoadError Json.Members → SettingsCache → Prop where
  | kept (isLoaded : c.isLoaded = true) (not_forced : force = false) :
    Fetches c disk env force validate (.ok c.members) c
  | wrong (fault : SettingsFault) (c' : SettingsCache) (isLoaded : c'.isLoaded = false)
      (source_eq : c'.source = c.source) :
    Fetches c disk env force validate (.error (.settings fault)) c'
  | unread (e : LoadError) (c' : SettingsCache) (no_fault : ∀ fault, e ≠ .settings fault)
      (isLoaded : c'.isLoaded = c.isLoaded) (members_eq : c'.members = c.members)
      (source_eq : c'.source = c.source) :
    Fetches c disk env force validate (.error e) c'
  | loaded (members : Json.Members) (c' : SettingsCache)
      (gives : c.source.Gives disk env validate members) (holds : c'.Holds members)
      (source_eq : c'.source = c.source) :
    Fetches c disk env force validate (.ok members) c'

/-- A cache answers with what it holds, and it does not check that. -/
theorem Holds.fetch_eq {c : SettingsCache} {members : Json.Members} (h : c.Holds members)
    (disk : Disk) (env : Environment) (validate : Bool) :
    c.fetch disk env false validate = (.ok members, c) := by
  rw [fetch, h.isLoaded, h.members_eq]
  rfl

theorem fetches_fetch (c : SettingsCache) (disk : Disk) (env : Environment)
    (force validate : Bool) :
    Fetches c disk env force validate (c.fetch disk env force validate).1
      (c.fetch disk env force validate).2 := by
  rw [fetch]
  split
  · next hcached =>
    rw [Bool.and_eq_true, Bool.not_eq_true'] at hcached
    exact .kept hcached.1 hcached.2
  · rw [load]
    split
    · exact .wrong _ _ rfl rfl
    · next e hfault _ => exact .unread e c (fun fault he => hfault fault he) rfl rfl rfl
    · next found hread =>
      simp only
      split
      · exact .wrong _ _ rfl rfl
      · next e hfault _ => exact .unread e _ (fun fault he => hfault fault he) rfl rfl rfl
      · next members hcompose =>
        exact .loaded members _ ⟨⟨found, hread, hcompose⟩⟩ ⟨rfl, rfl⟩ rfl

end SettingsCache

/-- What a cache of settings is asked. -/
inductive SettingsRequest where
  | load (force validate : Bool)
  | get (key : Text)
  | has (key : Text)
  | reset

/-- What a cache of settings answers. -/
inductive SettingsAnswer where
  | settings (members : Json.Members)
  | value (found : Option Json)
  | truth (b : Bool)
  | nothing

/-- A request with the disk and the environment that it finds. -/
structure SettingsEvent where
  request : SettingsRequest
  disk : Disk
  env : Environment

namespace SettingsCache

/-- The answer to a request, and the cache behind it. -/
def respond (c : SettingsCache) (e : SettingsEvent) :
    Except LoadError SettingsAnswer × SettingsCache :=
  match e.request with
  | .load force validate =>
    let (result, c) := c.fetch e.disk e.env force validate
    (result.map .settings, c)
  | .get key =>
    let (result, c) := c.settings e.disk e.env
    (result.map fun members => .value (members.setting? key), c)
  | .has key =>
    let (result, c) := c.settings e.disk e.env
    (result.map fun members => .truth (members.setting? key).isSome, c)
  | .reset => (.ok .nothing, c.reset)

/-- A load answers with the settings that are fetched. -/
theorem respond_load_eq_ok_iff {c : SettingsCache} {force validate : Bool} {disk : Disk}
    {env : Environment} {members : Json.Members} :
    (c.respond ⟨.load force validate, disk, env⟩).1 = .ok (.settings members) ↔
      (c.fetch disk env force validate).1 = .ok members := by
  have hanswer : (c.respond ⟨.load force validate, disk, env⟩).1 =
      (c.fetch disk env force validate).1.map .settings := rfl
  rw [hanswer]
  cases (c.fetch disk env force validate).1 with
  | error e => exact iff_of_false nofun nofun
  | ok members' => simp [Except.map]

/-- The cache of a source behind some requests. -/
def behind (source : SettingsSource) (history : List SettingsEvent) : SettingsCache :=
  history.foldl (fun c e => (c.respond e).2) (start source)

variable {source : SettingsSource} {history : List SettingsEvent} {members : Json.Members}

theorem behind_concat (source : SettingsSource) (history : List SettingsEvent)
    (e : SettingsEvent) : behind source (history ++ [e]) = ((behind source history).respond e).2 := by
  rw [behind, List.foldl_append]
  rfl

/-- What a request does to the settings in a cache: they stay, they are gone, or they were put
together anew, without a check only if a load asked for none. -/
inductive Moves (c : SettingsCache) (e : SettingsEvent) (c' : SettingsCache) : Prop where
  | kept (isLoaded : c'.isLoaded = c.isLoaded) (members_eq : c'.members = c.members)
  | gone (isLoaded : c'.isLoaded = false)
  | checked (members : Json.Members) (gives : c.source.Gives e.disk e.env true members)
      (holds : c'.Holds members)
  | unchecked (force : Bool) (members : Json.Members) (request_eq : e.request = .load force false)
      (gives : c.source.Gives e.disk e.env false members) (holds : c'.Holds members)

theorem Fetches.moves {c c' : SettingsCache} {e : SettingsEvent} {force validate : Bool}
    {result : Except LoadError Json.Members}
    (h : Fetches c e.disk e.env force validate result c')
    (hrequest : validate = false → e.request = .load force false) : Moves c e c' := by
  cases h with
  | kept => exact .kept rfl rfl
  | wrong fault _ isLoaded => exact .gone isLoaded
  | unread error _ no_fault isLoaded members_eq => exact .kept isLoaded members_eq
  | loaded members _ gives holds =>
    cases validate with
    | true => exact .checked members gives holds
    | false => exact .unchecked force members (hrequest rfl) gives holds

theorem moves_respond (c : SettingsCache) (e : SettingsEvent) : Moves c e (c.respond e).2 := by
  rw [respond]
  cases hrequest : e.request with
  | load force validate =>
    refine (fetches_fetch c e.disk e.env force validate).moves ?_
    rintro rfl
    exact hrequest
  | get key | has key => exact (fetches_fetch c e.disk e.env false true).moves nofun
  | reset => exact .gone rfl

theorem Fetches.source_eq {c c' : SettingsCache} {disk : Disk} {env : Environment}
    {force validate : Bool} {result : Except LoadError Json.Members}
    (h : Fetches c disk env force validate result c') : c'.source = c.source := by
  cases h with
  | kept => rfl
  | wrong _ _ _ source_eq | unread _ _ _ _ _ source_eq | loaded _ _ _ _ source_eq =>
    exact source_eq

theorem source_respond (c : SettingsCache) (e : SettingsEvent) :
    (c.respond e).2.source = c.source := by
  rw [respond]
  cases e.request with
  | load force validate => exact (fetches_fetch c e.disk e.env force validate).source_eq
  | get key | has key => exact (fetches_fetch c e.disk e.env false true).source_eq
  | reset => rfl

theorem source_behind (source : SettingsSource) (history : List SettingsEvent) :
    (behind source history).source = source := by
  induction history using List.reverseRecOn with
  | nil => rfl
  | append_singleton history e ih => rw [behind_concat, source_respond, ih]

/-! ## Where the settings in a cache come from -/

/-- Behind some requests a cache holds settings that a load without a check has put there, and it
has held them ever since. -/
def HoldsUnchecked (source : SettingsSource) (history : List SettingsEvent)
    (members : Json.Members) : Prop :=
  ∃ before force disk env after, history = before ++ ⟨.load force false, disk, env⟩ :: after ∧
    source.Gives disk env false members ∧
      ∀ since, since <+: after →
        (behind source (before ++ ⟨.load force false, disk, env⟩ :: since)).Holds members

theorem HoldsUnchecked.holds (h : HoldsUnchecked source history members) :
    (behind source history).Holds members := by
  obtain ⟨before, force, disk, env, after, rfl, -, hsince⟩ := h
  exact hsince after List.prefix_rfl

theorem HoldsUnchecked.concat (h : HoldsUnchecked source history members) {e : SettingsEvent}
    (holds : (behind source (history ++ [e])).Holds members) :
    HoldsUnchecked source (history ++ [e]) members := by
  obtain ⟨before, force, disk, env, after, rfl, gives, hsince⟩ := h
  refine ⟨before, force, disk, env, after ++ [e], by simp, gives, fun since hprefix => ?_⟩
  rcases List.prefix_concat_iff.1 hprefix with rfl | hprefix
  · simpa using holds
  · exact hsince since hprefix

/-- The settings in a cache were checked, or a load without a check has put them there. -/
theorem checked_or_unchecked (holds : (behind source history).Holds members) :
    (∃ disk env, source.Gives disk env true members) ∨ HoldsUnchecked source history members := by
  induction history using List.reverseRecOn generalizing members with
  | nil => cases holds.isLoaded
  | append_singleton history e ih =>
    have hmoves := moves_respond (behind source history) e
    rw [← behind_concat] at hmoves
    cases hmoves with
    | kept isLoaded members_eq =>
      have before : (behind source history).Holds members :=
        ⟨isLoaded ▸ holds.isLoaded, members_eq ▸ holds.members_eq⟩
      exact (ih before).imp_right fun unchecked => unchecked.concat holds
    | gone isLoaded => exact absurd holds.isLoaded (by simp [isLoaded])
    | checked members' gives holds' =>
      rw [source_behind] at gives
      rw [← holds.members_eq, holds'.members_eq]
      exact .inl ⟨e.disk, e.env, gives⟩
    | unchecked force members' request_eq gives holds' =>
      rw [source_behind] at gives
      obtain ⟨request, disk, env⟩ := e
      obtain rfl : request = .load force false := request_eq
      obtain rfl : members' = members := holds'.members_eq.symm.trans holds.members_eq
      refine .inr ⟨history, force, disk, env, [], rfl, gives, fun since hprefix => ?_⟩
      rw [List.prefix_nil.1 hprefix]
      exact holds

/-- Behind any requests, every load that checks and gives settings gives ones that keep the schema,
just if that is so of what loads without a check have put into the cache and what it still holds. -/
theorem checked_loads_valid_iff (source : SettingsSource) (history : List SettingsEvent) :
    (∀ force disk env members,
      ((behind source history).respond ⟨.load force true, disk, env⟩).1 =
          .ok (.settings members) →
        Settings.schema.holds (.object members) = true) ↔
      ∀ members, HoldsUnchecked source history members →
        Settings.schema.holds (.object members) = true := by
  constructor
  · intro hvalid members unchecked
    refine hvalid false (.folder []) [] members (respond_load_eq_ok_iff.2 ?_)
    rw [unchecked.holds.fetch_eq]
  · intro hvalid force disk env members hanswer
    have hfetches := fetches_fetch (behind source history) disk env force true
    rw [respond_load_eq_ok_iff.1 hanswer] at hfetches
    generalize ((behind source history).fetch disk env force true).2 = c' at hfetches
    generalize hresult : Except.ok members = result at hfetches
    cases hfetches with
    | kept isLoaded =>
      cases hresult
      rcases checked_or_unchecked ⟨isLoaded, rfl⟩ with ⟨disk, env, gives⟩ | unchecked
      · exact gives.valid
      · exact hvalid _ unchecked
    | wrong | unread => cases hresult
    | loaded _ _ gives =>
      cases hresult
      exact gives.valid

/-- A settings file whose route of the editors does not start with a slash: it is loaded without a
check, and then with one. -/
theorem not_forall_valid :
    ¬ ∀ (source : SettingsSource) (history : List SettingsEvent) (force : Bool) (disk : Disk)
      (env : Environment) (members : Json.Members),
        ((behind source history).respond ⟨.load force true, disk, env⟩).1 =
            .ok (.settings members) →
          Settings.schema.holds (.object members) = true := by
  intro hvalid
  let source : SettingsSource := .ofFile [text "p"] none
  let disk : Disk := .folder [(text "p", .folder [(Settings.defaultFile,
    .file (text "\x7b\"base_path\": \"admin\"\x7d").bytes)])]
  let history : List SettingsEvent := [⟨.load false false, disk, []⟩]
  have hrun : ((behind source history).fetch disk [] false true).1.toOption.map
      (fun members => Settings.schema.holds (.object members)) = some false := by
    decide +kernel
  obtain ⟨members, hfetch, hviolates⟩ := Option.map_eq_some_iff.1 hrun
  have hanswer := respond_load_eq_ok_iff.2 (Markup.eq_ok_of_toOption hfetch)
  rw [hvalid source history false disk [] members hanswer] at hviolates
  cases hviolates

end SettingsCache

end VisibleText
