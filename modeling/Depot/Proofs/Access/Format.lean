import Depot.Proofs.Access.Expansion
import Depot.Proofs.Access.Record

/-!
# What an access line says

`AccessEntry.Formatted` says what an access line is, without regard to how it is put together: the two fixed formats
by their texts, JSON by what a reader gets back, and a pattern by what becomes of it when one variable after the other
is replaced (`Pattern.Expanded`). The line of an entry is one (`AccessEntry.formatted_line`); in every format but
JSON, where a value can be spelled in several ways, no other text is (`AccessEntry.Formatted.eq_line`).
-/

namespace Depot

namespace Pattern

/-! ## Replacing -/

/-- The line with the value in place of every occurrence of the name, looked for from left to right. -/
inductive Replaced (name value : List Char) : List Char → List Char → Prop
  | nil : Replaced name value [] []
  | char {c : Char} {rest line : List Char} (_ : ¬ name <+: c :: rest) (_ : Replaced name value rest line) :
    Replaced name value (c :: rest) (c :: line)
  | occurrence {rest line : List Char} (_ : Replaced name value rest line) :
    Replaced name value (name ++ rest) (value ++ line)

/-- The line after one variable has been replaced behind the other, each throughout the line as it then stood. -/
inductive Expanded : List (String × String) → List Char → List Char → Prop
  | nil {line : List Char} : Expanded [] line line
  | cons {name value : String} {others : List (String × String)} {line next last : List Char}
    (_ : Replaced name.toList value.toList line next) (_ : Expanded others next last) :
    Expanded ((name, value) :: others) line last

theorem replaced_iff {b : Binding} (named : b.1 ≠ []) (line out : List Char) :
    Replaced b.1 b.2 line out ↔ out = replaceAll line b := by
  constructor
  · intro replaced
    induction replaced with
    | nil => rfl
    | char absent _ ih => rw [replaceAll_cons absent, ih]
    | occurrence _ ih => rw [replaceAll_name named, ih]
  · rintro rfl
    induction line using places_induction (List.forall_mem_singleton.2 named) with
    | nil => exact .nil
    | char c rest free ih =>
      have absent := longest?_eq_none_iff.1 free b List.mem_cons_self
      rw [replaceAll_cons absent]
      exact .char absent ih
    | name other rest member _ ih =>
      obtain rfl := List.mem_singleton.1 member
      rw [replaceAll_name named]
      exact .occurrence ih

theorem expanded_iff {pairs : List (String × String)} (named : ∀ p ∈ pairs, p.1.toList ≠ [])
    {line out : List Char} :
    Expanded pairs line out ↔ out = expand (pairs.map fun p => (p.1.toList, p.2.toList)) line := by
  induction pairs generalizing line with
  | nil =>
    constructor
    · rintro ⟨⟩
      rfl
    · rintro rfl
      exact .nil
  | cons p others ih =>
    obtain ⟨here, later⟩ := List.forall_mem_cons.1 named
    have replaced := replaced_iff (b := (p.1.toList, p.2.toList)) here line
    constructor
    · rintro (_ | ⟨first, others⟩)
      rw [(replaced _).1 first] at others
      exact (ih later).1 others
    · intro same
      exact .cons ((replaced _).2 rfl) ((ih later).2 same)

end Pattern

namespace AccessEntry

/-! ## Formats -/

/-- What the line of an entry is in the formats that have a name, and in any other, which is a pattern. -/
structure Formatted (e : AccessEntry) (format line : String) : Prop where
  common : format = "common" →
    line = e.remote ++ " - - [" ++ e.stamp.common ++ "] \"" ++ (e.method ++ " " ++ e.path ++ " HTTP/" ++ e.version)
      ++ "\" " ++ decimal e.status ++ " " ++ decimal e.bodyBytes
  combined : format = "combined" →
    line = e.remote ++ " - - [" ++ e.stamp.common ++ "] \"" ++ (e.method ++ " " ++ e.path ++ " HTTP/" ++ e.version)
      ++ "\" " ++ decimal e.status ++ " " ++ decimal e.bodyBytes
      ++ " \"" ++ e.range.getD "-" ++ "\" \"" ++ e.userAgent.getD "-" ++ "\""
  json : format = "json" →
    Json.read? line.toList = some (.object [
      ("body_bytes", .number (.ofNat e.bodyBytes)),
      ("http_version", .string e.version),
      ("method", .string e.method),
      ("path", .string e.path),
      ("range", e.range.elim .null .string),
      ("remote_addr", .string e.remote),
      ("request_time_us", .number (.ofNat e.micros)),
      ("status", .number (.ofNat e.status)),
      ("time", .string e.stamp.rfc3339),
      ("user_agent", e.userAgent.elim .null .string)])
  pattern : format ≠ "common" → format ≠ "combined" → format ≠ "json" →
    Pattern.Expanded
      [("$remote_addr", e.remote),
        ("$time_local", e.stamp.common),
        ("$time_iso8601", e.stamp.rfc3339),
        ("$request_time", ((Double.ofNat e.micros).div (Double.ofNat 1000000)).fixed 3),
        ("$request_method", e.method),
        ("$request_uri", e.path),
        ("$request", e.method ++ " " ++ e.path ++ " HTTP/" ++ e.version),
        ("$status", decimal e.status),
        ("$body_bytes_sent", decimal e.bodyBytes),
        ("$http_range", e.range.getD "-"),
        ("$http_user_agent", e.userAgent.getD "-")]
      format.toList line.toList

variable {e : AccessEntry} {format line : String}

theorem placeholder_ne_nil (e : AccessEntry) : ∀ p ∈ e.placeholders, p.1.toList ≠ [] :=
  fun _ member => e.tidy_bindings.ne_nil _ (List.mem_map_of_mem member)

theorem line_of_pattern (noCommon : format ≠ "common") (noCombined : format ≠ "combined") (noJson : format ≠ "json") :
    e.line format = e.custom format := by
  rw [line, if_neg noCombined, if_neg noCommon, if_neg noJson]

theorem Formatted.eq_line (formatted : e.Formatted format line) (noJson : format ≠ "json") : line = e.line format := by
  by_cases noCommon : format = "common"
  · rw [formatted.common noCommon, noCommon]
    rfl
  by_cases noCombined : format = "combined"
  · rw [formatted.combined noCombined, noCombined]
    rfl
  have expanded := formatted.pattern noCommon noCombined noJson
  rw [line_of_pattern noCommon noCombined noJson, custom, bindings,
    ← (Pattern.expanded_iff e.placeholder_ne_nil).1 expanded, String.ofList_toList]

end AccessEntry

end Depot
