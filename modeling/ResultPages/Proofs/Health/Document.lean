/-
The health document, written and read.

The document is written as an object of three texts, and by the grammar of JSON its text is a
spelling of that object and of nothing else (`spells_json_iff`).  A value is read as a document
exactly if it is an object with a text under each of the three names, whatever else it holds, or
an array of three texts (`ofObject_eq_ok_iff`, `ofItems_eq_ok_iff`).  So what is written is read
back, by whatever reader that keeps to the grammar (`json_reads_back`).
-/
import ResultPages.Health
import ResultPages.Proofs.Json.Grammar

namespace ResultPages

namespace Json

lemma field?_object_eq_some_iff {names : List String} {distinct : names.Nodup}
    {value : (name : String) → name ∈ names → Json} {name : String} {v : Json} :
    (object names distinct value).field? name = some v ↔ ∃ h : name ∈ names, value name h = v := by
  rw [field?]
  split
  · next h =>
    rw [Option.some.injEq]
    exact ⟨fun heq => ⟨h, heq⟩, fun ⟨_, heq⟩ => heq⟩
  · next h => exact iff_of_false nofun fun ⟨hmem, _⟩ => h hmem

end Json

namespace Health

open Json (textMember)

/-! ### Written -/

lemma distinct_names : ["name", "version", "commit"].Nodup := by decide

/-- The fields of the document. -/
def fields (h : Health) : List (String × Json) :=
  [("name", .string h.name), ("version", .string h.version), ("commit", .string h.commit)]

/-- The document as a value. -/
def document (h : Health) : Json := .ofFields h.fields distinct_names

lemma toList_json (h : Health) : h.json.toList =
    '\x7b' :: textMember "name" h.name (',' :: textMember "version" h.version
      (',' :: textMember "commit" h.commit ['\x7d'])) := by
  have hname : (Json.quote "name").toList = "\"name\"".toList := by decide
  have hversion : (Json.quote "version").toList = "\"version\"".toList := by decide
  have hcommit : (Json.quote "commit").toList = "\"commit\"".toList := by decide
  simp [json, textMember, hname, hversion, hcommit]

/-- The text of the document spells the document only. -/
theorem spells_json_iff {h : Health} {v : Json} : Json.Spells h.json v ↔ v = h.document := by
  rw [Json.Spells, toList_json, Json.padded_iff (by decide)]
  simp only [Json.value_textObject_iff, Json.members_more_iff, Json.members_last_iff]
  constructor
  · rintro ⟨u, ⟨fields, distinct, rfl, fields', rfl, fields'', rfl, rfl, rfl⟩, -⟩
    rfl
  · rintro rfl
    exact ⟨[], ⟨h.fields, distinct_names, rfl, _, rfl, _, rfl, rfl, rfl⟩, .none⟩

/-! ### Read -/

lemma bind_eq_ok_iff {α β : Type} {x : Except HealthError α} {f : α → Except HealthError β}
    {b : β} : (x >>= f) = .ok b ↔ ∃ a, x = .ok a ∧ f a = .ok b := by
  cases x with
  | error e => exact iff_of_false nofun fun ⟨_, h, _⟩ => nomatch h
  | ok a => exact ⟨fun h => ⟨a, rfl, h⟩, fun ⟨_, h, hb⟩ => Except.ok.inj h ▸ hb⟩

lemma text_eq_ok_iff {v : Json} {s : String} : text v = .ok s ↔ v = .string s := by
  cases v <;> simp [text]

lemma required_eq_ok_iff {name s : String} {o : Option String} :
    required name o = .ok s ↔ o = some s := by
  cases o <;> simp [required]

lemma textField?_eq_ok_some_iff {o : Json} {name s : String} :
    textField? o name = .ok (some s) ↔ o.field? name = some (.string s) := by
  rw [textField?]
  cases o.field? name with
  | none => simp
  | some v =>
      rw [Option.some.injEq, ← text_eq_ok_iff]
      cases htext : text v <;> simp [Except.map, htext]

/-- An object is a document exactly if there is a text under each of its names. -/
theorem ofObject_eq_ok_iff {o : Json} {h : Health} : ofObject o = .ok h ↔
    o.field? "name" = some (.string h.name) ∧ o.field? "version" = some (.string h.version) ∧
      o.field? "commit" = some (.string h.commit) := by
  simp only [ofObject, bind_eq_ok_iff, required_eq_ok_iff]
  constructor
  · rintro ⟨commit, hcommit, name, hname, version, hversion, n, rfl, v, rfl, c, rfl, hdocument⟩
    obtain rfl := Except.ok.inj hdocument
    rw [textField?_eq_ok_some_iff] at hcommit hname hversion
    exact ⟨hname, hversion, hcommit⟩
  · rintro ⟨hname, hversion, hcommit⟩
    rw [← textField?_eq_ok_some_iff] at hname hversion hcommit
    exact ⟨_, hcommit, _, hname, _, hversion, _, rfl, _, rfl, _, rfl, rfl⟩

/-- An array is a document exactly if it holds three texts and nothing else. -/
theorem ofItems_eq_ok_iff {items : List Json} {h : Health} : ofItems items = .ok h ↔
    items = [.string h.name, .string h.version, .string h.commit] := by
  match items with
  | [] => simp [ofItems]
  | [a] =>
      simp only [ofItems, bind_eq_ok_iff]
      exact iff_of_false (fun ⟨_, _, hno⟩ => nomatch hno) (by simp)
  | [a, b] =>
      simp only [ofItems, bind_eq_ok_iff]
      exact iff_of_false (fun ⟨_, _, _, _, hno⟩ => nomatch hno) (by simp)
  | a :: b :: c :: rest =>
      simp only [ofItems, bind_eq_ok_iff, text_eq_ok_iff]
      constructor
      · rintro ⟨name, rfl, version, rfl, commit, rfl, hdocument⟩
        split at hdocument
        · next hrest =>
          obtain rfl := Except.ok.inj hdocument
          rw [hrest]
        · cases hdocument
      · intro hitems
        obtain ⟨rfl, rfl, rfl, rfl⟩ : a = .string h.name ∧ b = .string h.version ∧
            c = .string h.commit ∧ rest = [] := by simpa using hitems
        exact ⟨_, rfl, _, rfl, _, rfl, if_pos rfl⟩

/-! ### Written and read -/

/-- The text of a document spells nothing but the object of its three texts, and is read back as
that document.  It is read from objects with these texts under their names, and from the array of
these texts. -/
theorem json_reads_back (h : Health) :
    (∀ v, Json.Spells h.json v ↔ v = .ofFields [("name", .string h.name),
      ("version", .string h.version), ("commit", .string h.commit)] distinct_names) ∧
    (∀ v, Json.Spells h.json v → ofJson v = .ok h ∧ (ofJson v).map appId = .ok h.appId) ∧
    ∀ v, ofJson v = .ok h ↔
      (∃ names distinct value, v = .object names distinct value ∧
        (∃ hname : "name" ∈ names, value "name" hname = .string h.name) ∧
        (∃ hversion : "version" ∈ names, value "version" hversion = .string h.version) ∧
        ∃ hcommit : "commit" ∈ names, value "commit" hcommit = .string h.commit) ∨
      v = .array [.string h.name, .string h.version, .string h.commit] := by
  have hread : ofJson h.document = .ok h := ofObject_eq_ok_iff.2 ⟨rfl, rfl, rfl⟩
  refine ⟨fun v => spells_json_iff, fun v hv => ?_, fun v => ?_⟩
  · obtain rfl := spells_json_iff.1 hv
    rw [hread]
    exact ⟨rfl, rfl⟩
  · cases v with
    | object names distinct value =>
        rw [ofJson, ofObject_eq_ok_iff]
        simp only [Json.field?_object_eq_some_iff]
        constructor
        · intro hfields
          exact Or.inl ⟨names, distinct, value, rfl, hfields⟩
        · rintro (⟨_, _, _, hsame, hfields⟩ | hsame)
          · cases hsame
            exact hfields
          · cases hsame
    | array items => simp [ofJson, ofItems_eq_ok_iff]
    | null | bool | number | decimal | string => simp [ofJson]

end Health

end ResultPages
