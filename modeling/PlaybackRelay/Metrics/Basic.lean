/-!
Exported series of numbers that only grow. A histogram is a family of series, one for each bound
with the number of the values up to it.
-/
namespace PlaybackRelay

/-- Each series by its name with its labels. -/
abbrev Metrics := List (String × Nat)

namespace Metrics

def value (series : String) (m : Metrics) : Nat := (m.lookup series).getD 0

def increase (series : String) (n : Nat) : Metrics → Metrics
  | [] => [(series, n)]
  | (name, value) :: rest =>
    if name = series then (name, value + n) :: rest else (name, value) :: increase series n rest

end Metrics

/-- Escapes quotes, line ends and backslashes in a label. A backslash is held back until the next
character: a pair of them counts as one that is escaped, and one before a quote as its escape. -/
def escapeLabelFrom : Bool → List Char → List Char
  | held, [] => if held then ['\\', '\\'] else []
  | held, '\n' :: cs => '\\' :: 'n' :: escapeLabelFrom held cs
  | _, '"' :: cs => '\\' :: '"' :: escapeLabelFrom false cs
  | true, '\\' :: cs => '\\' :: '\\' :: escapeLabelFrom false cs
  | false, '\\' :: cs => escapeLabelFrom true cs
  | true, c :: cs => '\\' :: '\\' :: c :: escapeLabelFrom false cs
  | false, c :: cs => c :: escapeLabelFrom false cs

def escapeLabel (value : String) : String := String.ofList (escapeLabelFrom false value.toList)

/-- The bounds ascend, each with the text that labels its series. -/
structure Histogram where
  name : String
  bounds : List (String × Nat)

namespace Histogram

def bucket (h : Histogram) (label : String) : String :=
  h.name ++ "_bucket\x7ble=\"" ++ label ++ "\"\x7d"

def count (h : Histogram) : String := h.name ++ "_count"

/-- The series that a value increases. -/
def series (h : Histogram) (value : Nat) : List String :=
  (h.bounds.filter fun bound => value ≤ bound.2).map (fun bound => h.bucket bound.1) ++
    [h.bucket "+Inf", h.count]

def observe (h : Histogram) (value : Nat) (m : Metrics) : Metrics :=
  (h.series value).foldl (fun m name => m.increase name 1) m

end Histogram
end PlaybackRelay
