import Depot.Proofs.Access.Line
import Depot.Proofs.Json.Reading

/-!
# Access lines as records

An access line in JSON is one object that says everything about its entry, and a reader of JSON gets it back
(`AccessEntry.json_line_decodes`). So no text of a client, whatever its characters are, can end a value early, add a
member or stand for a value that is absent, and entries that make the same line differ at most in times that are
written alike.
-/

namespace Depot

namespace AccessEntry

/-- Null stands for an absent text, and a text for itself. -/
theorem textOrNull_eq_iff (value : Option String) :
    (textOrNull value = .null ↔ value = none) ∧ ∀ text, textOrNull value = .string text ↔ value = some text := by
  cases value <;> simp [textOrNull]

theorem textOrNull_injective {value other : Option String} (same : textOrNull value = textOrNull other) :
    value = other := by
  cases other with
  | none => exact (textOrNull_eq_iff value).1.1 same
  | some text => exact ((textOrNull_eq_iff value).2 text).1 same

theorem reads_textOrNull (depth : Nat) (value : Option String) : Json.Reads depth (textOrNull value) := by
  cases value with
  | none => exact Json.reads_null
  | some text => exact Json.reads_string text

theorem toList_json_line (e : AccessEntry) : (e.line "json").toList = e.toJson.render := by
  have others : ¬ "json" = "combined" ∧ ¬ "json" = "common" := by decide
  rw [line, if_neg others.1, if_neg others.2, if_pos rfl, Json.compact, String.toList_ofList]

theorem read?_json_line (e : AccessEntry) : Json.read? (e.line "json").toList = some e.toJson := by
  rw [toList_json_line]
  refine Json.Reads.read?_render (Json.reads_object ?_)
  simp only [List.forall_mem_cons, Json.reads_number, Json.reads_string, reads_textOrNull, true_and]
  exact List.forall_mem_nil _

/-- The members of two entries are equal only if the entries agree, of their times in how these are written. -/
theorem agree_of_toJson_eq {e other : AccessEntry} (same : e.toJson = other.toJson) :
    e.remote = other.remote ∧ e.stamp.rfc3339 = other.stamp.rfc3339 ∧ e.method = other.method ∧
      e.path = other.path ∧ e.version = other.version ∧ e.status = other.status ∧
      e.bodyBytes = other.bodyBytes ∧ e.range = other.range ∧ e.userAgent = other.userAgent ∧
      e.micros = other.micros := by
  simp only [toJson, Json.object.injEq, List.cons.injEq, Prod.mk.injEq, Json.number.injEq, Json.Number.ofNat,
    Json.Number.mk.injEq, Json.string.injEq, true_and, and_true] at same
  obtain ⟨bodyBytes, version, method, path, range, remote, micros, status, time, userAgent⟩ := same
  exact ⟨remote, time, method, path, version, status, bodyBytes, textOrNull_injective range,
    textOrNull_injective userAgent, micros⟩

/-- A line in JSON has no control character and is read as one object of ten members, each with the value of the entry;
null stands for an absent range or user agent and for nothing else. Entries with the same line agree, of their times in
how these are written. -/
theorem json_line_decodes (e : AccessEntry) :
    (∀ c ∈ (e.line "json").toList, 32 ≤ c.toNat) ∧
    Json.read? (e.line "json").toList = some (.object [
      ("body_bytes", .number (.ofNat e.bodyBytes)),
      ("http_version", .string e.version),
      ("method", .string e.method),
      ("path", .string e.path),
      ("range", textOrNull e.range),
      ("remote_addr", .string e.remote),
      ("request_time_us", .number (.ofNat e.micros)),
      ("status", .number (.ofNat e.status)),
      ("time", .string e.stamp.rfc3339),
      ("user_agent", textOrNull e.userAgent)]) ∧
    (∀ value : Option String, (textOrNull value = .null ↔ value = none) ∧
      ∀ text, textOrNull value = .string text ↔ value = some text) ∧
    ∀ other : AccessEntry, e.line "json" = other.line "json" →
      e.remote = other.remote ∧ e.stamp.rfc3339 = other.stamp.rfc3339 ∧ e.method = other.method ∧
        e.path = other.path ∧ e.version = other.version ∧ e.status = other.status ∧
        e.bodyBytes = other.bodyBytes ∧ e.range = other.range ∧ e.userAgent = other.userAgent ∧
        e.micros = other.micros := by
  refine ⟨?_, read?_json_line e, textOrNull_eq_iff, fun other same => agree_of_toJson_eq ?_⟩
  · rw [toList_json_line]
    exact e.noControl_toJson
  · have read := read?_json_line e
    rw [same, read?_json_line other] at read
    exact (Option.some.inj read).symm

/-- A path that tries to close its text and to add a member is read back as it is, and an entry without a range has
another line than one whose range is spelled null. The time is that of a clock five hours and a half ahead. -/
theorem json_line_decodes_quoted :
    let e : AccessEntry := ⟨"::1", ⟨⟨1700000000, 500000000⟩, 19800⟩, "GET", "/a\",\"status\":0\n\\", "1.1", 200, 5,
      none, some "\u0001", 7⟩
    (∃ others, Json.read? (e.line "json").toList = some (.object others) ∧
      others.lookup "path" = some (.string "/a\",\"status\":0\n\\") ∧
      others.lookup "time" = some (.string "2023-11-15T03:43:20.500+05:30")) ∧
    e.line "json" ≠ AccessEntry.line "json" { e with range := some "null" } := by
  intro e
  obtain ⟨-, read, -, agree⟩ := json_line_decodes e
  have time : e.stamp.rfc3339 = "2023-11-15T03:43:20.500+05:30" := by decide +kernel
  refine ⟨⟨_, read, rfl, ?_⟩, fun same => ?_⟩
  · rw [time]
    rfl
  · obtain ⟨-, -, -, -, -, -, -, range, -, -⟩ := agree _ same
    cases range

end AccessEntry

end Depot
