import MarkupLint.Text.LineEnd

/-!
The texts of the files that come with the program.
-/
namespace MarkupLint.BundledText

/-- Which attributes are checked. -/
def attributes : String :=
  Text.ofLines
    ["# JSX attributes whose values are user-visible text.", "attributes:", "  target:",
     "    - placeholder", "    - title", "    - alt", "    - label", "    - aria-label",
     "    - description", "    - content", "    - tooltip", "    - aria-description",
     "  # Never checked. A trailing \"*\" matches every attribute with that prefix.",
     "  ignore:", "    - className", "    - class", "    - style", "    - id", "    - name",
     "    - type", "    - key", "    - data-testid", "    - data-*"]

/-- Which checkers there are, and how they are set up. -/
def checkers : String :=
  Text.ofLines
    ["checkers:", "  enabled:", "    - spelling", "    - prose", "  timeout_seconds: 10.0",
     "  spelling:", "    language: en",
     "    # Words accepted in addition to the dictionary (case-insensitive).", "    allow: []",
     "    # All-caps tokens up to this length are treated as acronyms.",
     "    max_acronym_length: 5", "  prose:", "    rules:", "      repeated-word: true",
     "      space-before-punctuation: true", "      repeated-punctuation: true",
     "      double-space: true", "      forbidden-phrase: true", "    forbidden_phrases:",
     "      \"click here\": \"Avoid \\\"click here\\\"; describe the destination instead.\"",
     "      \"please note\": \"\\\"Please note\\\" is filler; state the point directly.\"",
     "      \"simply\": \"\\\"simply\\\" can read as condescending.\""]

/-- Markers, files and the log level. -/
def defaults : String :=
  Text.ofLines
    ["directives:", "  region_start: \"@text-lint ignore start\"",
     "  region_end: \"@text-lint ignore end\"", "  single: \"@text-lint ignore\"", "", "scan:",
     "  extensions:", "    - .tsx", "    - .jsx", "  exclude_dirs:", "    - node_modules",
     "    - .git", "    - dist", "    - build", "  max_concurrency: 4", "", "logging:",
     "  level: WARNING"]

/-- The shape of a configuration. -/
def schema : String :=
  Text.ofLines
    ["$schema: \"https://json-schema.org/draft/2020-12/schema\"",
     "title: tsx-text-lint configuration", "type: object", "properties:", "  attributes:",
     "    type: object", "    properties:", "      target:", "        type: [array, \"null\"]",
     "        items: \x7btype: string\x7d", "      ignore:", "        type: [array, \"null\"]",
     "        items: \x7btype: string\x7d", "  directives:", "    type: object",
     "    properties:", "      region_start: \x7btype: string, minLength: 1\x7d",
     "      region_end: \x7btype: string, minLength: 1\x7d",
     "      single: \x7btype: string, minLength: 1\x7d", "  checkers:", "    type: object",
     "    properties:", "      enabled:", "        type: array",
     "        items: \x7btype: string\x7d", "      timeout_seconds:", "        type: number",
     "        exclusiveMinimum: 0", "      spelling:", "        type: object",
     "        properties:", "          language: \x7btype: string\x7d", "          allow:",
     "            type: array", "            items: \x7btype: string\x7d",
     "          max_acronym_length: \x7btype: integer, minimum: 0\x7d", "      prose:",
     "        type: object", "        properties:", "          rules:",
     "            type: object", "            additionalProperties: \x7btype: boolean\x7d",
     "          forbidden_phrases:", "            type: object",
     "            additionalProperties: \x7btype: string\x7d", "  scan:", "    type: object",
     "    properties:", "      extensions:", "        type: array",
     "        items: \x7btype: string\x7d", "      exclude_dirs:", "        type: array",
     "        items: \x7btype: string\x7d",
     "      max_concurrency: \x7btype: integer, minimum: 1\x7d", "  logging:",
     "    type: object", "    properties:", "      level:", "        type: string",
     "        enum: [DEBUG, INFO, WARNING, ERROR, CRITICAL]"]

/-- How a report is written. -/
def report : String :=
  Text.ofLines
    ["\x7b% for report in reports if report.diagnostics %\x7d", "\x7b\x7b report.path \x7d\x7d",
     "\x7b% for d in report.diagnostics %\x7d",
     "  \x7b\x7b \"%4d\"|format(d.line) \x7d\x7d  \x7b\x7b d.rule_id \x7d\x7d  " ++
       "\x7b\x7b d.message \x7d\x7d",
     "\x7b% endfor %\x7d", "", "\x7b% endfor %\x7d", "\x7b% if total %\x7d",
     "✖ \x7b\x7b total \x7d\x7d problem\x7b\x7b \"s\" if total != 1 \x7d\x7d in " ++
       "\x7b\x7b files_with_problems \x7d\x7d of \x7b\x7b files_checked \x7d\x7d " ++
       "file\x7b\x7b \"s\" if files_checked != 1 \x7d\x7d",
     "\x7b% else %\x7d",
     "✔ No problems found in \x7b\x7b files_checked \x7d\x7d " ++
       "file\x7b\x7b \"s\" if files_checked != 1 \x7d\x7d",
     "\x7b% endif %\x7d"]

end MarkupLint.BundledText
