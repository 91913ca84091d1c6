/-
The targets a profile allows. The check for repeated targets compares printed roots, which have one
spelling.
-/

import Ngxora.Router.RootSpelling

namespace Ngxora.Router

open ApiRoot List Results UriParts

variable {platform : Platform} {root : ApiRoot} {values : List String} {upstreams : UpstreamTable}
  {profile : ScpProfile}

private lemma exists_targets
    (allowed : ∀ value ∈ values, ∃ target, AllowedTarget platform root value target) :
    ∃ targets, List.Forall₂ (AllowedTarget platform root) values targets := by
  have parsed : ∀ value ∈ values, ∃ target, AllowedTarget platform root value target ∧
      AllowedTarget platform root value target := by
    simpa only [and_self] using allowed
  obtain ⟨targets, each, _⟩ := forall₂_of_forall_exists parsed
  exact ⟨targets, each⟩

variable {targets : List ApiRoot} {message : String}

private lemma foldlM_allowed (each : List.Forall₂ (AllowedTarget platform root) values targets)
    (seen : List String) : values.foldlM (allowedRootStep platform root) seen =
      if (targets.map value).Nodup ∧ ∀ target ∈ targets, target.value ∉ seen then
        .ok ((targets.map value).reverse ++ seen)
      else .error "duplicate scp allowed target" := by
  induction each generalizing seen with
  | nil => simp
  | @cons value target _ others allowed _ ih =>
    have step : allowedRootStep platform root seen value =
        if target.value ∈ seen then .error "duplicate scp allowed target"
        else .ok (target.value :: seen) := by
      unfold allowedRootStep
      rw [allowed.1, ok_bind, allowed.2, rejectIf_false, ok_bind]
      by_cases known : target.value ∈ seen
      · simp only [known, decide_true, rejectIf_true, if_true, error_bind]
      · simp only [known, decide_false, rejectIf_false, if_false, ok_bind]
        rfl
    rw [foldlM_cons, step]
    by_cases known : target.value ∈ seen
    · rw [if_pos known, error_bind, if_neg]
      exact fun fresh => fresh.2 target mem_cons_self known
    · rw [if_neg known, ok_bind, ih]
      have fresh : ((others.map ApiRoot.value).Nodup ∧
            ∀ other ∈ others, other.value ∉ target.value :: seen) ↔
          ((target :: others).map ApiRoot.value).Nodup ∧
            ∀ other ∈ target :: others, other.value ∉ seen := by
        rw [map_cons, nodup_cons, forall_mem_cons]
        constructor
        · rintro ⟨nodup, unseen⟩
          refine ⟨⟨fun again => ?_, nodup⟩, known, fun other mem later =>
            unseen other mem (mem_cons_of_mem _ later)⟩
          obtain ⟨other, mem, same⟩ := mem_map.mp again
          exact unseen other mem (same ▸ mem_cons_self)
        · rintro ⟨⟨first, nodup⟩, _, unseen⟩
          refine ⟨nodup, fun other mem again => ?_⟩
          rcases mem_cons.mp again with same | later
          · exact first (mem_map.mpr ⟨other, mem, same⟩)
          · exact unseen other mem later
      simp only [fresh, map_cons, reverse_cons, append_assoc, singleton_append]

/-- Two of the texts have the same root. -/
def RepeatsTarget (platform : Platform) (values : List String) : Prop :=
  ∃ first second target, [first, second].Sublist values ∧
    parse platform first = .ok target ∧ parse platform second = .ok target

private lemma not_nodup_of_repeatsTarget
    (each : List.Forall₂ (AllowedTarget platform root) values targets)
    (repeats : RepeatsTarget platform values) : ¬ targets.Nodup := by
  obtain ⟨first, second, target, both, firstOk, secondOk⟩ := repeats
  have parsed : values.map (parse platform) = targets.map .ok := by
    clear both
    induction each with
    | nil => rfl
    | cons allowed _ ih => rw [map_cons, map_cons, allowed.1, ih]
  intro nodup
  have distinctResults : (targets.map (Except.ok : ApiRoot → Except String ApiRoot)).Nodup :=
    nodup.map fun _ _ => Except.ok.inj
  rw [← parsed, List.Nodup, pairwise_map, pairwise_iff_forall_sublist] at distinctResults
  exact distinctResults both (firstOk.trans secondOk.symm)

private lemma duplicate_of_repeatsTarget (others : OtherChecks platform upstreams profile root)
    (repeats : RepeatsTarget platform profile.allowedTargetApiRoots) :
    validateProfile platform upstreams profile = .error "duplicate scp allowed target" := by
  obtain ⟨targets, each⟩ := exists_targets others.targets
  obtain ⟨seen, discovered⟩ := others.discovery
  unfold validateProfile
  rw [others.name, rejectIf_false, ok_bind, others.apiRoot, ok_bind, discovered, ok_bind,
    foldlM_allowed each, if_neg, error_bind]
  exact fun fresh => not_nodup_of_repeatsTarget each repeats (List.Nodup.of_map _ fresh.1)

private lemma bind_ne_error {α β : Type} {first : Except String α} {next : α → Except String β}
    (here : first ≠ .error message) (later : ∀ value, next value ≠ .error message) :
    first >>= next ≠ .error message := by
  intro fails
  rcases bind_eq_error.mp fails with failed | ⟨value, _, failed⟩
  · exact here failed
  · exact later value failed

private lemma rejectIf_ne_error {bad : Bool} {other : String} (differ : other ≠ message) :
    rejectIf bad other ≠ .error message :=
  fun fails => differ (rejectIf_eq_error.mp fails).2

private lemma orFail_ne_error {α : Type} {value : Option α} {other : String}
    (differ : other ≠ message) :
    orFail value other ≠ .error message :=
  fun fails => differ (orFail_eq_error.mp fails).2

private lemma parse_error (value : String) :
    parse platform value ≠ .error "duplicate scp allowed target" := by
  refine bind_ne_error (rejectIf_ne_error (by decide)) fun _ => bind_ne_error ?_ fun uri => ?_
  · cases platform.uriParse value with
    | error | ok => simp [Except.mapError]
  refine bind_ne_error (orFail_ne_error (by decide)) fun _ => ?_
  refine bind_ne_error (rejectIf_ne_error (by decide)) fun _ => ?_
  refine bind_ne_error (orFail_ne_error (by decide)) fun _ => ?_
  refine bind_ne_error (rejectIf_ne_error (by decide)) fun _ => ?_
  refine bind_ne_error (orFail_ne_error (by decide)) fun _ => ?_
  refine bind_ne_error (rejectIf_ne_error (by decide)) fun _ => ?_
  exact bind_ne_error (rejectIf_ne_error (by decide)) fun _ => nofun

private lemma discovery_error (seen : List (String × String × String)) (name : String) :
    discoveryStep upstreams seen name ≠ .error "duplicate scp allowed target" := by
  refine bind_ne_error (orFail_ne_error fun same => ?_) fun _ =>
    bind_ne_error (orFail_ne_error fun same => ?_) fun _ =>
      bind_ne_error (rejectIf_ne_error (by decide)) fun _ => nofun
  all_goals
    have first := congrArg (fun text : String => text.toList.head?) same
    simp [toString] at first

private lemma repeatsTarget_of_duplicate (splits : SplitsUris platform)
    (refused : validateProfile platform upstreams profile = .error "duplicate scp allowed target") :
    RepeatsTarget platform profile.allowedTargetApiRoots := by
  rcases bind_eq_error.mp refused with here | ⟨_, _, refused⟩
  · exact absurd (rejectIf_eq_error.mp here).2 (by decide)
  rcases bind_eq_error.mp refused with here | ⟨root, _, refused⟩
  · exact absurd here (parse_error _)
  rcases bind_eq_error.mp refused with here | ⟨_, _, refused⟩
  · obtain ⟨_, _, _, _, _, _, step⟩ := exists_failure_of_foldlM here
    exact absurd step (discovery_error _ _)
  rcases bind_eq_error.mp refused with here | ⟨_, _, refused⟩
  · obtain ⟨done, value, rest, seen, split, doneOk, step⟩ := exists_failure_of_foldlM here
    obtain ⟨targets, each⟩ := exists_targets (allowed_of_foldlM doneOk)
    rw [foldlM_allowed each] at doneOk
    rcases ite_eq_iff.mp doneOk with ⟨_, same⟩ | ⟨_, same⟩
    · cases same
      rcases bind_eq_error.mp step with notParsed | ⟨target, parsed, step⟩
      · exact absurd notParsed (parse_error _)
      rcases bind_eq_error.mp step with own | ⟨_, _, step⟩
      · exact absurd (rejectIf_eq_error.mp own).2 (by decide)
      rcases bind_eq_error.mp step with known | ⟨_, _, step⟩
      · have printed := of_decide_eq_true (rejectIf_eq_error.mp known).1
        simp only [append_nil, mem_reverse, mem_map] at printed
        obtain ⟨old, mem, same⟩ := printed
        obtain ⟨first, present, allowed⟩ := exists_of_mem_right each mem
        rw [value_injective splits allowed.1 parsed same] at allowed
        refine ⟨first, value, target, ?_, allowed.1, parsed⟩
        rw [split]
        exact (singleton_sublist.mpr present).append (singleton_sublist.mpr mem_cons_self)
      · cases step
    · cases same
  · exact absurd (rejectIf_eq_error.mp refused).2 (by decide)

/-- A printed root parses to the root exactly when the host was a literal or did not end in a
bracket. Roots with the same text are equal, so the check for repeated targets is exact. -/
theorem api_roots_canonical_iff {platform : Platform} (splits : SplitsUris platform) :
    (∀ authorityOk pathOk, AcceptsUris platform authorityOk pathOk → ∀ value uri root,
      platform.uriParse value = .ok uri → parse platform value = .ok root →
        (parse platform root.value = .ok root ↔
          Text.startsWith "[" uri.authorityHost = true ∨
            Text.endsWith "]" uri.authorityHost = false)) ∧
    (∀ value other root otherRoot, parse platform value = .ok root →
      parse platform other = .ok otherRoot → root.value = otherRoot.value →
        root = otherRoot) ∧
    ∀ upstreams profile,
      (validateProfile platform upstreams profile = .error "duplicate scp allowed target" →
        RepeatsTarget platform profile.allowedTargetApiRoots) ∧
      (validateProfile platform upstreams profile = .ok () →
        ¬ RepeatsTarget platform profile.allowedTargetApiRoots) ∧
      ∀ root, OtherChecks platform upstreams profile root →
        (validateProfile platform upstreams profile = .error "duplicate scp allowed target" ↔
          RepeatsTarget platform profile.allowedTargetApiRoots) := by
  refine ⟨fun _ _ accepts _ _ _ => parse_value_iff splits accepts,
    fun _ _ _ _ => value_injective splits,
    fun upstreams profile => ⟨repeatsTarget_of_duplicate splits, ?_, ?_⟩⟩
  · intro valid repeats
    rcases otherChecks_of_valid valid with ⟨root, others⟩
    rw [duplicate_of_repeatsTarget others repeats] at valid
    cases valid
  · intro root others
    exact ⟨repeatsTarget_of_duplicate splits, duplicate_of_repeatsTarget others⟩

theorem spellings_parse_to_one_root :
    parse uriPlatform "HTTP://[FE80::a]:+080/amf/" =
        .ok { scheme := "http", host := "fe80::a", port := 80, pathPrefix := "/amf" } ∧
      parse uriPlatform "http://[fe80::a]/amf" =
        .ok { scheme := "http", host := "fe80::a", port := 80, pathPrefix := "/amf" } := by
  have spelled : parse uriPlatform "HTTP://[FE80::a]:+080/amf/" =
      .ok { scheme := "http", host := "fe80::a", port := 80, pathPrefix := "/amf" } := by
    decide +kernel
  have printed : value
      { scheme := "http", host := "fe80::a", port := 80, pathPrefix := "/amf" } =
        "http://[fe80::a]/amf" := by
    decide +kernel
  obtain ⟨uri, read, literal⟩ : ∃ uri, uriPlatform.uriParse "HTTP://[FE80::a]:+080/amf/" =
      .ok uri ∧ Text.startsWith "[" uri.authorityHost = true := by
    decide +kernel
  have canonical := ((api_roots_canonical_iff uriPlatform_splits).1 _ _ uriPlatform_accepts
    _ uri _ read spelled).mpr (.inl literal)
  rw [printed] at canonical
  exact ⟨spelled, canonical⟩

/-- The host of `a[b]` loses its last bracket, and the printed root is refused. -/
theorem bracketed_name_refused :
    SplitsUris uriPlatform ∧ AcceptsUris uriPlatform Balanced (fun _ => True) ∧
      ∃ root, parse uriPlatform "http://a[b]" = .ok root ∧ root.value = "http://a[b" ∧
        parse uriPlatform root.value = .error "invalid apiRoot" := by
  refine ⟨uriPlatform_splits, uriPlatform_accepts, ?_⟩
  decide +kernel

end Ngxora.Router
