/-!
# Sections

The section names of the language, and the rules that hold when a dictionary brings none of its own: which
settings a section must have and which sections enclose which.
-/

namespace ChartConfig

/-- Interchangeable settings, by canonical name: declaring one of them fills the slot. -/
abbrev Slot := List String

namespace Section

def known : List String :=
  ["column", "configuration", "dropdown", "group", "keys", "link", "node", "option", "other",
    "placeholders", "properties", "property", "series", "tag", "tags", "threshold", "widget"]

def requiredSettings : List (String × List Slot) :=
  [("series",
      [["entity", "value", "entities", "entitygroup", "entityexpression"],
        ["metric", "value", "table", "attribute"]]),
    ("widget", [["type"]]),
    ("dropdown", [["onchange", "changefield"]])]

def parents : List (String × List String) :=
  [("widget", ["group", "configuration"]),
    ("series", ["widget", "column"]),
    ("tag", ["series"]),
    ("tags", ["series"]),
    ("column", ["widget"]),
    ("node", ["widget"]),
    ("link", ["widget"])]

/-- Pairs of a section and one before it that stand on the same level. -/
def sameLevel : List (String × String) :=
  [("group", "configuration"), ("link", "node"), ("series", "link"), ("link", "series"),
    ("node", "link")]

def sharesLevel (current previous : String) : Bool :=
  sameLevel.contains (current, previous)

end Section

end ChartConfig
