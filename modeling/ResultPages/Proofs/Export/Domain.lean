/-
The domain that the certificate of an endpoint has to be valid for.

An endpoint is `https://`, a host with or without a user in front and a port behind, and what
stands behind the authority (`Endpoint`).  The domain should be the host.  What is taken for it is
everything up to the first slash or colon, and that is the host only if the host has no colon in
it, and nothing but a user with the same name stands in front of it (`tlsDomain?_eq_host_iff`).
-/
import ResultPages.Export
import ResultPages.Proofs.Host.Ipv6Text

namespace ResultPages

/-! ### Endpoints -/

/-- A host in an address: a name or an IPv4 address, or an IPv6 address in brackets. -/
inductive IsHost : List Char → Prop
  | name {cs : List Char} (ne_nil : cs ≠ [])
      (free : ∀ c ∈ cs, c ∉ [':', '/', '?', '#', '@', '[', ']']) : IsHost cs
  | literal {cs : List Char} {x : Ipv6} (spells : Ipv6.Spells cs x.pieces) :
      IsHost ('[' :: (cs ++ [']']))

/-- An address with the scheme `https`, by its parts. -/
structure Endpoint where
  /-- What stands in front of the host, without the at sign. -/
  userinfo : Option (List Char)
  /-- The host, with its brackets. -/
  host : List Char
  /-- What stands behind the host, without the colon. -/
  port : Option (List Char)
  /-- Path, query and fragment, with their marks. -/
  rest : List Char
  userinfo_free : ∀ u ∈ userinfo, ∀ c ∈ u, c ∉ ['/', '?', '#', '@', '[', ']']
  isHost : IsHost host
  isDigit : ∀ p ∈ port, ∀ c ∈ p, c.isDigit
  rest_head : ∀ c ∈ rest.head?, c ∈ ['/', '?', '#']

namespace Endpoint

/-- What stands in front of the host. -/
def before (e : Endpoint) : List Char :=
  match e.userinfo with
  | none => []
  | some u => u ++ ['@']

/-- What stands behind the host. -/
def behind (e : Endpoint) : List Char :=
  match e.port with
  | none => e.rest
  | some p => ':' :: (p ++ e.rest)

/-- The text of an endpoint. -/
def text (e : Endpoint) : List Char :=
  Export.defaultScheme ++ (e.before ++ (e.host ++ e.behind))

end Endpoint

/-! ### Hosts -/

namespace IsHost

variable {cs : List Char}

lemma ne_nil (h : IsHost cs) : cs ≠ [] := by
  cases h with
  | name ne_nil => exact ne_nil
  | literal => exact List.cons_ne_nil _ _

/-- What ends an authority or the user in it is not in a host. -/
lemma not_mem (h : IsHost cs) {c : Char} (hc : c ∈ ['/', '?', '#', '@']) : c ∉ cs := by
  intro hmem
  cases h with
  | name _ free => exact free c hmem (List.mem_cons_of_mem _ (List.mem_append_left ['[', ']'] hc))
  | literal spells =>
      have hmarks : ['/', '?', '#', '@'].all fun c =>
          ¬ (isPlainChar c ∨ c = ':') ∧ c ≠ '[' ∧ c ≠ ']' := by decide
      obtain ⟨hspelled, hopen, hclose⟩ := of_decide_eq_true (List.all_eq_true.1 hmarks c hc)
      rw [List.mem_cons, List.mem_append, List.mem_singleton] at hmem
      rcases hmem with hmem | hmem | hmem
      · exact hopen hmem
      · exact hspelled (spells.isPlainChar_or_colon hmem)
      · exact hclose hmem

/-- Colons stand in brackets only. -/
lemma colon_mem_iff (h : IsHost cs) : ':' ∈ cs ↔ cs.head? = some '[' := by
  cases h with
  | name _ free =>
      refine iff_of_false (fun hmem => free ':' hmem (by decide)) fun hhead => ?_
      exact free '[' (List.mem_of_mem_head? hhead) (by decide)
  | literal spells =>
      refine iff_of_true (List.mem_cons_of_mem _ ?_) rfl
      exact List.mem_append_left _ spells.colon_mem

/-- A user in front of whom the host stands already has a colon behind that. -/
lemma exists_of_user (h : IsHost cs) {u xs rest : List Char} (hu : '/' ∉ u)
    (heq : u ++ '@' :: xs = cs ++ rest) (hrest : ∀ c ∈ rest.head?, c = '/' ∨ c = ':') :
    ∃ password, u = cs ++ ':' :: password := by
  rcases List.append_eq_append_iff.1 heq with ⟨as, rfl, has⟩ | ⟨bs, rfl, rfl⟩
  · -- the host would go on to the at sign, and neither has one nor ends in front of it
    cases as with
    | nil =>
        obtain rfl : '@' :: xs = rest := has
        exact absurd (hrest '@' rfl) (by decide)
    | cons c as =>
        obtain ⟨rfl, -⟩ := List.cons.inj has
        exact absurd (List.mem_append_right u List.mem_cons_self) (h.not_mem (by decide))
  · cases bs with
    | nil => exact absurd (hrest '@' rfl) (by decide)
    | cons b password =>
        rcases hrest b rfl with rfl | rfl
        · exact absurd (List.mem_append_right cs List.mem_cons_self) hu
        · exact ⟨password, rfl⟩

end IsHost

/-! ### The domain -/

/-- What is taken while a condition holds. -/
lemma takeWhile_eq_iff {α : Type} {p : α → Bool} {xs ys : List α} :
    xs.takeWhile p = ys ↔
      ∃ zs, xs = ys ++ zs ∧ (∀ y ∈ ys, p y) ∧ ∀ z ∈ zs.head?, p z = false := by
  constructor
  · rintro rfl
    refine ⟨xs.dropWhile p, List.takeWhile_append_dropWhile.symm,
      fun y hy => List.mem_takeWhile_imp hy, fun z hz => ?_⟩
    have hstop := List.head?_dropWhile_not p xs
    rwa [hz] at hstop
  · rintro ⟨zs, rfl, hys, hzs⟩
    rw [List.takeWhile_append_of_pos hys]
    cases zs with
    | nil => exact List.append_nil ys
    | cons z zs =>
        have hz : ¬ p z = true := by simp [hzs z rfl]
        rw [List.takeWhile_cons_of_neg hz, List.append_nil]

namespace Export

/-- The domain of an address is what stands up to a slash, to a colon or to the end. -/
lemma tlsDomain?_eq_some_iff {cs domain : List Char} (hne : domain ≠ []) (id : String) :
    tlsDomain? ⟨String.ofList (defaultScheme ++ cs), id⟩ = some (String.ofList domain) ↔
      ∃ rest, cs = domain ++ rest ∧ ('/' ∉ domain ∧ ':' ∉ domain) ∧
        ∀ c ∈ rest.head?, c = '/' ∨ c = ':' := by
  have hprefix : defaultScheme.isPrefixOf (defaultScheme ++ cs) = true :=
    List.isPrefixOf_iff_prefix.2 (List.prefix_append _ _)
  have htaken :
      tlsDomain? ⟨String.ofList (defaultScheme ++ cs), id⟩ = some (String.ofList domain) ↔
        (cs.takeWhile fun c => c ≠ '/' ∧ c ≠ ':') = domain := by
    rw [tlsDomain?]
    simp only [String.toList_ofList, hprefix, if_true, List.drop_left]
    split
    · next hnil => exact iff_of_false nofun fun h => hne (h.symm.trans hnil)
    · rw [Option.some.injEq, String.ofList_inj]
  have hdomain : (∀ c ∈ domain, decide (c ≠ '/' ∧ c ≠ ':') = true) ↔
      '/' ∉ domain ∧ ':' ∉ domain := by
    simp only [decide_eq_true_eq, forall_and, List.forall_mem_ne']
  have hend : ∀ c, decide (c ≠ '/' ∧ c ≠ ':') = false ↔ c = '/' ∨ c = ':' := by
    intro c
    rw [decide_eq_false_iff_not, not_and_or, not_not, not_not]
  rw [htaken, takeWhile_eq_iff]
  simp only [hdomain, hend]

/-- The domain of an endpoint is its host exactly if the host is not in brackets and ends at a
colon, at a slash or with the endpoint, and no user stands in front, or else if the user has the
name of the host and a password. -/
theorem tlsDomain?_eq_host_iff (e : Endpoint) (id : String) :
    tlsDomain? ⟨String.ofList e.text, id⟩ = some (String.ofList e.host) ↔
      (e.userinfo = none ∧ e.host.head? ≠ some '[' ∧
        (e.port = none → ∀ c ∈ e.rest.head?, c = '/')) ∨
      ∃ password, e.userinfo = some (e.host ++ ':' :: password) := by
  rw [Endpoint.text, tlsDomain?_eq_some_iff e.isHost.ne_nil]
  have hslash : '/' ∉ e.host := e.isHost.not_mem (by decide)
  have hcolon := e.isHost.colon_mem_iff
  constructor
  · rintro ⟨rest, heq, ⟨-, hnot⟩, hrest⟩
    rw [hcolon] at hnot
    cases hu : e.userinfo with
    | none =>
        rw [Endpoint.before, hu, List.nil_append] at heq
        obtain rfl := List.append_cancel_left heq
        refine Or.inl ⟨rfl, hnot, fun hport c hc => ?_⟩
        rw [Endpoint.behind, hport] at hrest
        rcases hrest c hc with hc' | rfl
        · exact hc'
        · exact absurd (e.rest_head ':' hc) (by decide)
    | some u =>
        rw [Endpoint.before, hu, List.append_assoc, List.singleton_append] at heq
        obtain ⟨password, rfl⟩ :=
          e.isHost.exists_of_user (fun hmem => e.userinfo_free u hu '/' hmem (by decide)) heq hrest
        exact Or.inr ⟨password, rfl⟩
  · rintro (⟨hu, hhead, hend⟩ | ⟨password, hu⟩)
    · refine ⟨e.behind, ?_, ⟨hslash, fun hmem => hhead (hcolon.1 hmem)⟩, ?_⟩
      · rw [Endpoint.before, hu]
        rfl
      · intro c hc
        rw [Endpoint.behind] at hc
        cases hport : e.port with
        | none =>
            rw [hport] at hc
            exact Or.inl (hend hport c hc)
        | some p =>
            rw [hport] at hc
            exact Or.inr (Option.some.inj hc).symm
    · refine ⟨':' :: (password ++ '@' :: (e.host ++ e.behind)), ?_, ⟨hslash, ?_⟩, ?_⟩
      · rw [Endpoint.before, hu]
        simp only [List.append_assoc, List.cons_append, List.nil_append]
      · intro hmem
        have hbracket := List.mem_of_mem_head? (hcolon.1 hmem)
        exact e.userinfo_free _ hu '[' (List.mem_append_left _ hbracket) (by decide)
      · rintro c ⟨⟩
        exact Or.inr rfl

/-- The endpoint `https://[::1]:4317`. -/
def bracketed : Endpoint where
  userinfo := none
  host := '[' :: ([':', ':', '1'] ++ [']'])
  port := some ['4', '3', '1', '7']
  rest := []
  userinfo_free := nofun
  isHost := .literal (x := ⟨[0, 0, 0, 0, 0, 0, 0, 1], rfl⟩)
    (Ipv6.ofText?_eq_some_iff.1 (by decide))
  isDigit := by
    rintro p ⟨⟩
    exact List.all_eq_true.1 (by decide)
  rest_head := nofun

/-- An address in brackets is cut at its first colon. -/
theorem not_forall_tlsDomain?_eq_host : ¬ ∀ (e : Endpoint) (id : String),
    tlsDomain? ⟨String.ofList e.text, id⟩ = some (String.ofList e.host) := by
  intro h
  have hcut : tlsDomain? ⟨String.ofList bracketed.text, "pod-7"⟩ = some "[" := by decide +kernel
  exact absurd (hcut.symm.trans (h bracketed "pod-7")) (by decide +kernel)

end Export

end ResultPages
