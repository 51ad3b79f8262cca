import MarkupLint.Value.Basic

/-!
The configuration that every run starts from, in layers.
-/
namespace MarkupLint.Bundled

def attributes : Value :=
  .ofFields
    [("attributes", .ofFields
      [("target", .ofStrings
        ["placeholder", "title", "alt", "label", "aria-label", "description", "content",
         "tooltip", "aria-description"]),
       ("ignore", .ofStrings
        ["className", "class", "style", "id", "name", "type", "key", "data-testid", "data-*"])])]

def checkers : Value :=
  .ofFields
    [("checkers", .ofFields
      [("enabled", .ofStrings ["spelling", "prose"]),
       ("timeout_seconds", .float (.ofNat 10)),
       ("spelling", .ofFields
         [("language", .str "en"), ("allow", .ofList []), ("max_acronym_length", .int 5)]),
       ("prose", .ofFields
         [("rules", .ofFields
           [("repeated-word", .bool true), ("space-before-punctuation", .bool true),
            ("repeated-punctuation", .bool true), ("double-space", .bool true),
            ("forbidden-phrase", .bool true)]),
          ("forbidden_phrases", .ofFields
           [("click here", .str "Avoid \"click here\"; describe the destination instead."),
            ("please note", .str "\"Please note\" is filler; state the point directly."),
            ("simply", .str "\"simply\" can read as condescending.")])])])]

def defaults : Value :=
  .ofFields
    [("directives", .ofFields
      [("region_start", .str "@text-lint ignore start"),
       ("region_end", .str "@text-lint ignore end"),
       ("single", .str "@text-lint ignore")]),
     ("scan", .ofFields
      [("extensions", .ofStrings [".tsx", ".jsx"]),
       ("exclude_dirs", .ofStrings ["node_modules", ".git", "dist", "build"]),
       ("max_concurrency", .int 4)]),
     ("logging", .ofFields [("level", .str "WARNING")])]

/-- The layers by file name, in the order in which they are merged. -/
def layers : List (String × Value) :=
  [("attributes.yaml", attributes), ("checkers.yaml", checkers), ("defaults.yaml", defaults)]

end MarkupLint.Bundled
