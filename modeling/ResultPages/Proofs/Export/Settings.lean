/-
The settings of an export as they are read from the environment.

Export is off exactly if the variable for the endpoint holds no text but blanks.  If it is on, the
endpoint names a scheme, and such an endpoint is read as it stands; so reading it a second time
changes nothing.  The instance is read on its own, whatever the endpoint is.  An endpoint that is
just a host, with or without a port, may be spelled with the default scheme or without it, and
with any number of slashes behind: the domain is that host (`ofEnvironment_settings`).
-/
import ResultPages.Proofs.CommandLine.Given
import ResultPages.Proofs.Export.Domain
import ResultPages.Proofs.Text.Occurrence

namespace ResultPages

lemma Environment.text?_eq_some_iff {env : Environment} {name s : String} :
    env.text? name = some s ↔ env.get? name = some (.ofString s) := by
  rw [text?, Option.bind_eq_some_iff]
  constructor
  · rintro ⟨v, hv, hs⟩
    rw [hv, Octets.toString?_eq_some_iff.1 hs]
  · intro h
    exact ⟨_, h, Octets.toString?_eq_some_iff.2 rfl⟩

/-- What stands behind a text goes if all of it is to be trimmed, and nothing in the text is. -/
lemma trimEnd_append {p : Char → Bool} {cs tail : List Char} (hcs : ∀ c ∈ cs, ¬ p c)
    (htail : ∀ c ∈ tail, p c) : trimEnd p (cs ++ tail) = cs := by
  have hdropped : ∀ c ∈ tail.reverse, p c := fun c hc => htail c (List.mem_reverse.1 hc)
  have hkept : cs.reverse.dropWhile p = cs.reverse := by
    rw [List.dropWhile_eq_self_iff]
    exact fun hlength => hcs _ (List.mem_reverse.1 (List.getElem_mem hlength))
  rw [trimEnd, List.reverse_append, List.dropWhile_append_of_pos hdropped, hkept,
    List.reverse_reverse]

namespace Export

variable {cs : List Char}

/-! ### Endpoints with a scheme -/

lemma normalize_of_schemeMark (h : schemeMark <:+: cs) : normalize cs = cs :=
  if_pos (occursIn_iff_isInfix.2 h)

lemma schemeMark_infix_default (cs : List Char) : schemeMark <:+: defaultScheme ++ cs := by
  have hscheme : schemeMark <:+: defaultScheme := ⟨"https".toList, [], by decide⟩
  exact hscheme.trans (List.prefix_append _ _).isInfix

/-- Every endpoint names a scheme in the end. -/
lemma schemeMark_infix_normalize (cs : List Char) : schemeMark <:+: normalize cs := by
  rw [normalize]
  split
  · next h => exact occursIn_iff_isInfix.1 h
  · exact schemeMark_infix_default _

lemma not_blank_of_schemeMark (h : schemeMark <:+: cs) : ¬ ∀ c ∈ cs, isBlank c := by
  intro hblank
  have hcolon : ':' ∈ cs := h.subset (by decide)
  exact absurd (hblank ':' hcolon) (by decide)

/-! ### What is read -/

variable {fresh : Ulid} {env : Environment} {e e' : Export}

/-- The domain hangs on the endpoint only. -/
lemma tlsDomain?_congr (h : e.endpoint = e'.endpoint) : e.tlsDomain? = e'.tlsDomain? := by
  rw [tlsDomain?, tlsDomain?, h]

/-- An environment that asks for no export: the variable for the endpoint is not set, holds no
text, or holds nothing but blanks. -/
inductive IsOff (env : Environment) : Prop
  | unset (get : env.get? endpointVariable = none)
  | noText {v : Octets} (get : env.get? endpointVariable = some v) (no_text : ¬ v.IsText)
  | blank {s : String} (get : env.get? endpointVariable = some (.ofString s))
      (blank : ∀ c ∈ s.toList, isBlank c)

/-- An export is read from a text that is not blank. -/
lemma ofEnvironment_eq_some_iff : ofEnvironment fresh env = some e ↔
    ∃ s, env.get? endpointVariable = some (.ofString s) ∧ (¬ ∀ c ∈ s.toList, isBlank c) ∧
      e = ⟨String.ofList (normalize s.toList),
        (env.text? instanceVariable).getD fresh.toText⟩ := by
  simp only [← Environment.text?_eq_some_iff, ← List.all_eq_true]
  rw [ofEnvironment]
  cases env.text? endpointVariable with
  | none => exact iff_of_false nofun fun ⟨_, hs, _⟩ => nomatch hs
  | some s =>
      simp only [Option.some.injEq, exists_eq_left']
      split
      · next hblank => exact iff_of_false nofun fun h => h.1 hblank
      · next hblank =>
        rw [Option.some.injEq]
        exact ⟨fun h => ⟨hblank, h.symm⟩, fun h => h.2.symm⟩

lemma ofEnvironment_eq_none_iff : ofEnvironment fresh env = none ↔ IsOff env := by
  rw [Option.eq_none_iff_forall_ne_some]
  constructor
  · intro h
    cases hget : env.get? endpointVariable with
    | none => exact .unset hget
    | some v =>
        by_cases htext : v.IsText
        · obtain ⟨s, rfl⟩ := htext
          by_cases hblank : ∀ c ∈ s.toList, isBlank c
          · exact .blank hget hblank
          · exact absurd (ofEnvironment_eq_some_iff.2 ⟨s, hget, hblank, rfl⟩) (h _)
        · exact .noText hget htext
  · intro hoff e he
    obtain ⟨s, hget, hblank, -⟩ := ofEnvironment_eq_some_iff.1 he
    cases hoff with
    | unset hnone => exact absurd (hnone.symm.trans hget) nofun
    | noText hv hno =>
        obtain rfl := Option.some.inj (hv.symm.trans hget)
        exact hno (Octets.isText_ofString s)
    | blank hs hall =>
        rw [← Environment.text?_eq_some_iff] at hs hget
        obtain rfl := Option.some.inj (hs.symm.trans hget)
        exact hblank hall

/-- An endpoint with a scheme is read as it stands. -/
lemma ofEnvironment_of_schemeMark {s : String} (hs : schemeMark <:+: s.toList)
    (hget : env.get? endpointVariable = some (.ofString s)) : ofEnvironment fresh env =
      some ⟨s, (env.text? instanceVariable).getD fresh.toText⟩ := by
  refine ofEnvironment_eq_some_iff.2 ⟨s, hget, not_blank_of_schemeMark hs, ?_⟩
  rw [normalize_of_schemeMark hs, String.ofList_toList]

/-- What the settings of an export say that are read from an environment. -/
structure IsReadFrom (fresh : Ulid) (env : Environment) (e : Export) : Prop where
  /-- The endpoint names a scheme. -/
  names_scheme : schemeMark <:+: e.endpoint.toList
  /-- An endpoint that names a scheme is taken as it stands. -/
  as_it_stands : ∀ s, env.get? endpointVariable = some (.ofString s) →
    schemeMark <:+: s.toList → e.endpoint = s
  /-- With that endpoint in its variable, the same endpoint and the same domain are read. -/
  read_again : ∀ (fresh' : Ulid) (env' : Environment),
    env'.get? endpointVariable = some (.ofString e.endpoint) →
      ∃ e', ofEnvironment fresh' env' = some e' ∧ e'.endpoint = e.endpoint ∧
        e'.tlsDomain? = e.tlsDomain?
  /-- The instance is the text of its variable, as it stands. -/
  instance_of_text : ∀ s, env.get? instanceVariable = some (.ofString s) → e.instanceId = s
  /-- Without a text in its variable the instance has a fresh identifier. -/
  instance_of_noText : (∀ s, env.get? instanceVariable ≠ some (.ofString s)) →
    e.instanceId = fresh.toText
  /-- Another endpoint makes no difference to the instance. -/
  instance_independent : ∀ (env' : Environment) (e' : Export),
    env'.get? instanceVariable = env.get? instanceVariable →
      ofEnvironment fresh env' = some e' → e'.instanceId = e.instanceId

lemma isReadFrom_of_ofEnvironment (h : ofEnvironment fresh env = some e) :
    IsReadFrom fresh env e := by
  have hverbatim : ∀ s, env.get? endpointVariable = some (.ofString s) →
      schemeMark <:+: s.toList → e.endpoint = s := by
    intro s hget hs
    have hread := h.symm.trans (ofEnvironment_of_schemeMark hs hget)
    rw [Option.some.inj hread]
  obtain ⟨s, -, -, rfl⟩ := ofEnvironment_eq_some_iff.1 h
  have hscheme : schemeMark <:+: (String.ofList (normalize s.toList)).toList := by
    rw [String.toList_ofList]
    exact schemeMark_infix_normalize s.toList
  refine ⟨hscheme, hverbatim, fun fresh' env' hget => ?_, fun t ht => ?_, fun hno => ?_,
    fun env' e' hsame he' => ?_⟩
  · exact ⟨_, ofEnvironment_of_schemeMark hscheme hget, rfl, tlsDomain?_congr rfl⟩
  · rw [Environment.text?_eq_some_iff.2 ht]
    rfl
  · have hnone : env.text? instanceVariable = none :=
      Option.eq_none_iff_forall_ne_some.2 fun t ht => hno t (Environment.text?_eq_some_iff.1 ht)
    rw [hnone]
    rfl
  · obtain ⟨-, -, -, rfl⟩ := ofEnvironment_eq_some_iff.1 he'
    rw [Environment.text?, hsame]
    rfl

/-! ### Endpoints that are just a host -/

/-- A host with or without a port, as it may be spelled for an endpoint. -/
structure HostSpelling where
  /-- The host. -/
  host : List Char
  /-- What stands behind the host, without the colon. -/
  port : Option (List Char)
  /-- The number of slashes at the end. -/
  slashes : Nat
  not_blank : ¬ ∀ c ∈ host, isBlank c
  slash_not_mem : '/' ∉ host
  colon_not_mem : ':' ∉ host
  isDigits : ∀ p ∈ port, p ≠ [] ∧ ∀ c ∈ p, c.isDigit

namespace HostSpelling

variable (b : HostSpelling)

/-- What stands behind the host, without the slashes at the end. -/
def behind : List Char :=
  match b.port with
  | none => []
  | some p => ':' :: p

/-- The host with its port. -/
def authority : List Char := b.host ++ b.behind

/-- The spelling without a scheme. -/
def text : List Char := b.authority ++ List.replicate b.slashes '/'

lemma slash_not_mem_behind : '/' ∉ b.behind := by
  rw [behind]
  split
  · exact List.not_mem_nil
  · next p hp =>
    intro hmem
    obtain h | h := List.mem_cons.1 hmem
    · exact absurd h (by decide)
    · exact absurd ((b.isDigits p hp).2 '/' h) (by decide)

/-- A spelling without a scheme does not look as if there were one. -/
lemma not_schemeMark_infix : ¬ schemeMark <:+: b.text := by
  have hno : ∀ cs, ':' ∉ cs → occurrences schemeMark cs = 0 := fun cs hcs =>
    occurrences_of_avoids (by decide) (avoids_of_not_mem hcs)
  have hslashes : ':' ∉ List.replicate b.slashes '/' := fun h =>
    absurd (List.eq_of_mem_replicate h) (by decide)
  have hhost : avoids schemeMark b.host := avoids_of_not_mem b.colon_not_mem
  rw [← occursIn_iff_isInfix, occursIn, decide_eq_true_iff, Nat.pos_iff_ne_zero, not_not, text,
    authority, List.append_assoc, occurrences_append_of_avoids hhost, behind]
  split
  · exact hno _ hslashes
  · next p hp =>
    obtain ⟨hne, hdigits⟩ := b.isDigits p hp
    have hrest : ':' ∉ p ++ List.replicate b.slashes '/' := by
      rw [List.mem_append, not_or]
      exact ⟨fun h => absurd (hdigits ':' h) (by decide), hslashes⟩
    -- behind the only colon stands a digit
    obtain ⟨d, ds, rfl⟩ := List.exists_cons_of_ne_nil hne
    rw [List.cons_append, occurrences_cons_of_not_prefix, hno _ hrest]
    rw [List.cons_append]
    intro hstart
    have hmark : schemeMark = [':', '/', '/'] := rfl
    rw [hmark, List.cons_prefix_cons, List.cons_prefix_cons] at hstart
    exact absurd (hstart.2.1 ▸ hdigits d List.mem_cons_self) (by decide)

lemma normalize_text : normalize b.text = defaultScheme ++ b.authority := by
  have hslash : ∀ c ∈ b.authority, ¬ decide (c = '/') = true := by
    rintro c hc hslash
    obtain rfl := of_decide_eq_true hslash
    rcases List.mem_append.1 hc with hc | hc
    · exact b.slash_not_mem hc
    · exact b.slash_not_mem_behind hc
  rw [normalize, if_neg fun h => b.not_schemeMark_infix (occursIn_iff_isInfix.1 h), text,
    trimEnd_append hslash fun c hc => decide_eq_true (List.eq_of_mem_replicate hc)]

/-- Behind the host come its port and the slashes, in any number. -/
lemma tlsDomain?_host (n : Nat) (id : String) :
    tlsDomain? ⟨String.ofList (defaultScheme ++ (b.authority ++ List.replicate n '/')), id⟩ =
      some (String.ofList b.host) := by
  have hne : b.host ≠ [] := by
    intro hnil
    exact b.not_blank (hnil ▸ nofun)
  refine (tlsDomain?_eq_some_iff hne id).2 ⟨b.behind ++ List.replicate n '/', ?_,
    ⟨b.slash_not_mem, b.colon_not_mem⟩, fun c hc => ?_⟩
  · rw [authority, List.append_assoc]
  · rw [behind] at hc
    split at hc
    · exact Or.inl (List.eq_of_mem_replicate (List.mem_of_mem_head? hc))
    · exact Or.inr (Option.some.inj hc).symm

/-- Without a scheme the host gets the default one, and loses its slashes. -/
lemma read_bare (h : env.get? endpointVariable = some (.ofString (String.ofList b.text))) :
    ∃ e, ofEnvironment fresh env = some e ∧
      e.endpoint = String.ofList (defaultScheme ++ b.authority) ∧
      e.tlsDomain? = some (String.ofList b.host) := by
  have hblank : ¬ ∀ c ∈ (String.ofList b.text).toList, isBlank c := by
    rw [String.toList_ofList]
    intro hall
    exact b.not_blank fun c hc => hall c (List.mem_append_left _ (List.mem_append_left _ hc))
  have hdomain := b.tlsDomain?_host 0
  rw [List.replicate_zero, List.append_nil] at hdomain
  refine ⟨_, ofEnvironment_eq_some_iff.2 ⟨_, h, hblank, rfl⟩, ?_⟩
  rw [String.toList_ofList, b.normalize_text]
  exact ⟨rfl, hdomain _⟩

/-- With the default scheme in front it is taken as it stands. -/
lemma read_schemed
    (h : env.get? endpointVariable = some (.ofString (String.ofList (defaultScheme ++ b.text)))) :
    ∃ e, ofEnvironment fresh env = some e ∧ e.tlsDomain? = some (String.ofList b.host) := by
  have hscheme : schemeMark <:+: (String.ofList (defaultScheme ++ b.text)).toList := by
    rw [String.toList_ofList]
    exact schemeMark_infix_default b.text
  exact ⟨_, ofEnvironment_of_schemeMark hscheme h, b.tlsDomain?_host b.slashes _⟩

end HostSpelling

/-- When export is off, what is read when it is on, and what is read of an endpoint that is just a
host. -/
theorem ofEnvironment_settings (fresh : Ulid) (env : Environment) :
    (ofEnvironment fresh env = none ↔ IsOff env) ∧
    (∀ e, ofEnvironment fresh env = some e → IsReadFrom fresh env e) ∧
    ∀ b : HostSpelling,
      (env.get? endpointVariable = some (.ofString (String.ofList b.text)) →
        ∃ e, ofEnvironment fresh env = some e ∧
          e.endpoint = String.ofList (defaultScheme ++ b.authority) ∧
          e.tlsDomain? = some (String.ofList b.host)) ∧
      (env.get? endpointVariable = some (.ofString (String.ofList (defaultScheme ++ b.text))) →
        ∃ e, ofEnvironment fresh env = some e ∧ e.tlsDomain? = some (String.ofList b.host)) :=
  ⟨ofEnvironment_eq_none_iff, fun _ => isReadFrom_of_ofEnvironment,
    fun b => ⟨b.read_bare, b.read_schemed⟩⟩

example : ofEnvironment ⟨0⟩ [(endpointVariable, .ofString "otel.example.com:4317/"),
    (instanceVariable, .ofString "pod-7")] = some ⟨"https://otel.example.com:4317", "pod-7"⟩ := by
  decide +kernel

end Export

end ResultPages
