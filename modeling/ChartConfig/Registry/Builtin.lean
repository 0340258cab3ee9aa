import ChartConfig.Pattern.Parser
import ChartConfig.Registry.Dictionary

/-!
# The built-in registry

The settings that documents are held to when no dictionary is given.
-/

namespace ChartConfig

/-- The choice that a text spells as a pattern. -/
def Choice.ofText? : String → Option Choice :=
  compiled? Pattern.compile?

def Choice.known (texts : List String) : List Choice :=
  texts.filterMap Choice.ofText?

namespace Registry

def builtinFirst : List Setting := [
  { displayName := "add-meta", type := .boolean, sample := "true"
    description := "Request entity and metric metadata from the server."
    defaultValue := some "false"
    home := some "series" },
  { displayName := "alias", type := .string, sample := "s1"
    description := "Unique series identifier used to reference the series in value expressions."
    home := some "series" },
  { displayName := "arrow-length", type := .number, sample := "0.3"
    description := "Length of the gauge arrow relative to the radius."
    defaultValue := some "1"
    minValue := some 0
    maxValue := some 1
    home := some "widget" },
  { displayName := "attribute", type := .string, sample := "cpu_busy"
    description := "Column of the table from which the series values are loaded."
    home := some "series" },
  { displayName := "auto-scale", type := .boolean, sample := "true"
    description := "Scale the axis to the visible values."
    defaultValue := some "false"
    home := some "widget" },
  { displayName := "bottom-axis", type := .enum, sample := "values"
    description := "Content of the bottom axis."
    defaultValue := some "percentiles"
    choices := Choice.known ["none", "percentiles", "values"]
    home := some "widget" },
  { displayName := "buttons", type := .enum, sample := "update"
    description := "Buttons displayed in the widget header."
    choices := Choice.known ["menu", "update"]
    multiLine := true
    home := some "widget" },
  { displayName := "case", type := .enum, sample := "upper"
    description := "Letter case applied to the widget labels."
    choices := Choice.known ["upper", "lower"]
    home := some "widget" },
  { displayName := "change-field", type := .string, sample := "series.entity"
    description := "Series field replaced with the dropdown value."
    home := some "dropdown" },
  { displayName := "color", type := .string, sample := "red"
    description := "Series color."
    home := some "series" },
  { displayName := "colors", type := .string, sample := "red, yellow, green"
    description := "Series colors, assigned in order."
    home := some "widget" },
  { displayName := "column-metric", type := .string, sample := "null"
    description := "Metric column of the table widget. `null` hides the column."
    home := some "widget" },
  { displayName := "column-value", type := .string, sample := "null"
    description := "Value column of the table widget. `null` hides the column."
    home := some "widget" },
  { displayName := "counter-position", type := .enum, sample := "top"
    description := "Position of the counter."
    defaultValue := some "none"
    choices := Choice.known ["none", "top", "bottom"]
    home := some "widget" },
  { displayName := "disconnect-interval", type := .interval, sample := "1 minute"
    description := "Gap length after which the series line is broken."
    home := some "series" },
  { displayName := "display", type := .boolean, sample := "false"
    description := "Show the series in the widget."
    defaultValue := some "true"
    home := some "series" },
  { displayName := "enabled", type := .boolean, sample := "false"
    description := "Enable the series."
    defaultValue := some "true"
    home := some "series" },
  { displayName := "end-time", type := .date, sample := "2017-04-22 01:00:00"
    description := "End of the selection interval."
    home := some "widget" },
  { displayName := "entities", type := .string, sample := "nurswgvml006, nurswgvml007"
    description := "Comma-separated list of entity names."
    home := some "series" },
  { displayName := "entity", type := .string, sample := "nurswgvml007"
    description := "Entity name."
    home := some "series" }]

def builtinSecond : List Setting := [
  { displayName := "entity-expression", type := .string, sample := "tags.app = 'ATSD'"
    description := "Expression selecting entities by their tags."
    excluded := ["entity-group"]
    home := some "series" },
  { displayName := "entity-group", type := .string, sample := "nur-collectors"
    description := "Entity group name."
    excluded := ["entity-expression"]
    home := some "series" },
  { displayName := "format", type := .string, sample := "kilobytes"
    description := "Value format."
    home := some "series" },
  { displayName := "format-counter", type := .string, sample := "count"
    description := "Counter format."
    home := some "widget" },
  { displayName := "height-units", type := .number, sample := "2"
    description := "Widget height in grid units."
    defaultValue := some "1"
    minValue := some 0
    home := some "widget" },
  { displayName := "id", type := .string, sample := "s1"
    description := "Identifier referenced by other widgets."
    home := some "widget" },
  { displayName := "interpolate", type := .enum, sample := "linear"
    description := "Interpolation function applied to the series."
    choices := Choice.known ["none", "linear", "previous", "value"]
    home := some "series" },
  { displayName := "label", type := .string, sample := "cpu_busy"
    description := "Series label shown in the legend."
    home := some "series" },
  { displayName := "last-marker", type := .boolean, sample := "false"
    description := "Show a marker on the last value."
    defaultValue := some "true"
    home := some "series" },
  { displayName := "legend-position", type := .enum, sample := "top"
    description := "Position of the legend."
    choices := Choice.known ["top", "bottom", "right", "left", "none", "hidden"]
    home := some "widget" },
  { displayName := "limit", type := .integer, sample := "10"
    description := "Maximum number of samples loaded per series."
    minValue := some 0
    home := some "series" },
  { displayName := "max-range", type := .number, sample := "100"
    description := "Maximum value of the axis."
    home := some "widget" },
  { displayName := "merge-fields", type := .string, sample := "tags.disk"
    description := "Fields used to merge series."
    home := some "series" },
  { displayName := "metric", type := .string, sample := "cpu_busy"
    description := "Metric name."
    home := some "series" },
  { displayName := "min-range", type := .number, sample := "0"
    description := "Minimum value of the axis."
    home := some "widget" },
  { displayName := "multiple-series", type := .boolean, sample := "true"
    description := "Allow the series to load several entity/tag combinations."
    home := some "series" },
  { displayName := "offset-right", type := .number, sample := "5"
    description := "Right margin of the chart in pixels."
    home := some "widget" },
  { displayName := "on-change", type := .string, sample := "widget.setEntity(value)"
    description := "Script executed when the dropdown value changes."
    home := some "dropdown" },
  { displayName := "period", type := .interval, sample := "1 hour"
    description := "Aggregation period."
    home := some "series" },
  { displayName := "script", type := .string, sample := "widget.setSeries()"
    description := "Script executed when the widget is loaded."
    home := some "widget" }]

def builtinThird : List Setting := [
  { displayName := "series-limit", type := .integer, sample := "10"
    description := "Maximum number of series loaded for one declaration."
    minValue := some 1
    home := some "series" },
  { displayName := "server-aggregate", type := .boolean, sample := "false"
    description := "Aggregate series on the server."
    home := some "widget" },
  { displayName := "start-time", type := .date, sample := "2017-04-01T10:15:00Z"
    description := "Start of the selection interval."
    home := some "widget" },
  { displayName := "statistic", type := .enum, sample := "avg"
    description := "Aggregation statistic."
    choices := Choice.known ["avg", "count", "counter", "delta", "detail", "first", "last", "max",
      "max_value_time", "median", "min", "min_value_time", "percentile_\\d+",
      "standard_deviation", "sum", "wavg", "wtavg"]
    home := some "series" },
  { displayName := "style", type := .string, sample := "stroke: red"
    description := "CSS style applied to the series."
    home := some "series" },
  { displayName := "summarize-period", type := .interval, sample := "1 hour"
    description := "Period of the summary statistics."
    home := some "widget" },
  { displayName := "table", type := .string, sample := "cpu_busy_table"
    description := "Table from which the series values are loaded."
    home := some "series" },
  { displayName := "thresholds", type := .string, sample := "0, 60, 80"
    description := "Threshold levels."
    home := some "widget" },
  { displayName := "ticks", type := .integer, sample := "5"
    description := "Number of ticks on the axis."
    minValue := some 0
    home := some "widget" },
  { displayName := "timespan", type := .interval, sample := "1 hour"
    description := "Duration of the selection interval."
    defaultValue := some "1 hour"
    home := some "widget" },
  { displayName := "timezone", type := .enum, sample := "utc"
    description := "Time zone used to display dates."
    choices := Choice.known ["utc", "local"]
    home := some "configuration" },
  { displayName := "title", type := .string, sample := "CPU Busy"
    description := "Widget title."
    home := some "widget" },
  { displayName := "type", type := .enum, sample := "chart"
    description := "Widget type."
    choices := Choice.known ["chart", "bar", "box", "calendar", "console", "counter", "donut",
      "gauge", "graph", "histogram", "page", "pie", "property", "table", "text", "treemap",
      "alert-table"]
    home := some "widget" },
  { displayName := "update-interval", type := .interval, sample := "5 minute"
    description := "Interval between widget refreshes."
    defaultValue := some "1 minute"
    home := some "widget" },
  { displayName := "url", type := .string, sample := "https://atsd.example.org:8443"
    description := "Base address of the data server."
    home := some "configuration" },
  { displayName := "url-parameters", type := .string, sample := "?ids=1"
    description := "Query parameters appended to data requests."
    home := some "widget" },
  { displayName := "value", type := .string, sample := "value('cpu') * 2"
    description := "Expression computing the series from other series."
    home := some "series" },
  { displayName := "widgets-per-row", type := .integer, sample := "3"
    description := "Number of widgets in one row."
    minValue := some 1
    home := some "group" },
  { displayName := "width-units", type := .number, sample := "1"
    description := "Widget width in grid units."
    defaultValue := some "1"
    minValue := some 0
    home := some "widget" }]

def builtin : Registry :=
  of (builtinFirst ++ builtinSecond ++ builtinThird) Section.requiredSettings Section.parents
    (by simp [builtinFirst, builtinSecond, builtinThird])

end Registry

end ChartConfig
