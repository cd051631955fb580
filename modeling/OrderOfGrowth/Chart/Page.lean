import OrderOfGrowth.Chart.Dataset
import OrderOfGrowth.Json.Writer
import OrderOfGrowth.Readout
import OrderOfGrowth.Text.Entity

/-!
# The page of a chart

A chart is shown by a page with a title, three cards for the estimate and the measurements,
and the lines of the chart as data of a script. The title stands in two places with its
special characters as entities, so it cannot end the element it stands in.
-/

namespace OrderOfGrowth

/-- The texts that a page is made of. -/
structure PageParts where
  title : List Char
  complexity : List Char
  description : List Char
  runtime : List Char
  memory : List Char
  memoryNote : List Char
  datasets : List Char
  ceiling : List Char

namespace PageParts

/-- The lines of a page. -/
def lines (parts : PageParts) : List (List Char) :=
  [
    "<!DOCTYPE html>".toList,
    "<html lang=\"en\">".toList,
    "<head>".toList,
    "    <meta charset=\"UTF-8\">".toList,
    "    <meta name=\"viewport\" content=\"width=device-width, initial-scale=1.0\">".toList,
    "    <title>".toList ++ parts.title ++ "</title>".toList,
    "    <script src=\"https://cdn.jsdelivr.net/npm/chart.js\"></script>".toList,
    "    <style>".toList,
    "        body \x7b font-family: Arial, sans-serif; margin: 20px; ".toList ++
      "background: #111827; color: #f3f4f6; \x7d".toList,
    "        .cards \x7b display: flex; gap: 16px; margin-bottom: 24px; \x7d".toList,
    "        .card \x7b flex: 1; padding: 16px; border: 1px solid #374151; ".toList ++
      "border-radius: 8px; \x7d".toList,
    "        .card .label \x7b font-size: 0.85em; color: #9ca3af; \x7d".toList,
    "        .card .value \x7b font-size: 1.6em; font-weight: bold; \x7d".toList,
    "        .card .note \x7b font-size: 0.75em; color: #6b7280; \x7d".toList,
    "        .chart-container \x7b position: relative; height: 400px; \x7d".toList,
    "    </style>".toList,
    "</head>".toList,
    "<body>".toList,
    "    <h1>".toList ++ parts.title ++ "</h1>".toList,
    "    <div class=\"cards\">".toList,
    "        <div class=\"card\">".toList,
    "            <div class=\"label\">Complexity</div>".toList,
    "            <div class=\"value\">".toList ++ parts.complexity ++ "</div>".toList,
    "            <div class=\"note\">".toList ++ parts.description ++ "</div>".toList,
    "        </div>".toList,
    "        <div class=\"card\">".toList,
    "            <div class=\"label\">Runtime</div>".toList,
    "            <div class=\"value\">".toList ++ parts.runtime ++ "</div>".toList,
    "            <div class=\"note\">Execution time</div>".toList,
    "        </div>".toList,
    "        <div class=\"card\">".toList,
    "            <div class=\"label\">Memory</div>".toList,
    "            <div class=\"value\">".toList ++ parts.memory ++ "</div>".toList,
    "            <div class=\"note\">".toList ++ parts.memoryNote ++ "</div>".toList,
    "        </div>".toList,
    "    </div>".toList,
    "".toList,
    "    <div class=\"chart-container\">".toList,
    "        <canvas id=\"complexityChart\"></canvas>".toList,
    "    </div>".toList,
    "    <p class=\"note\">The highlighted line shows your code's estimated complexity. ".toList ++
      "Lower complexity is better for scalability.</p>".toList,
    "".toList,
    "    <script>".toList,
    "        const datasets = ".toList ++ parts.datasets ++ ";".toList,
    "".toList,
    "        document.addEventListener('DOMContentLoaded', function() \x7b".toList,
    "            const ctx = document.getElementById('complexityChart').getContext('2d');".toList,
    "            new Chart(ctx, \x7b".toList,
    "                type: 'line',".toList,
    "                data: \x7b datasets: datasets \x7d,".toList,
    "                options: \x7b".toList,
    "                    responsive: true,".toList,
    "                    maintainAspectRatio: false,".toList,
    "                    parsing: false,".toList,
    "                    scales: \x7b".toList,
    "                        x: \x7b".toList,
    "                            type: 'linear',".toList,
    "                            title: \x7b display: true, text: 'Elements' \x7d".toList,
    "                        \x7d,".toList,
    "                        y: \x7b".toList,
    "                            min: 0,".toList,
    "                            max: ".toList ++ parts.ceiling ++ ",".toList,
    "                            title: \x7b display: true, text: 'Operations' \x7d".toList,
    "                        \x7d".toList,
    "                    \x7d".toList,
    "                \x7d".toList,
    "            \x7d);".toList,
    "        \x7d);".toList,
    "    </script>".toList,
    "</body>".toList,
    "</html>".toList
  ]

/-- The text of a page, with a line feed at the end of every line. -/
def text (parts : PageParts) : List Char := parts.lines.flatMap (· ++ ['\n'])

end PageParts

namespace Chart

/-- The title of a page unless said otherwise. -/
def standardTitle : String := "Big-O Complexity Chart"

/-- A value, which must have a text. -/
def writable (value : Json) : Except Failure Json :=
  if value.isWritable then .ok value else .error (.arithmetic .tooLongInteger)

/-- The texts of the page of a chart under a title. -/
def pageParts (chart : Chart) (title : String) : Except Failure PageParts := do
  let datasets ← writable (.list ((← chart.datasets).map Dataset.toJson))
  let memoryNote ← Readout.memoryNote chart.memoryLimit
  let runtime ← Readout.runtime chart.runtime
  let memory ← Readout.memory (Json.ofOption chart.memory)
  let ceiling ← writable chart.ceiling
  return {
    title := Text.escapeEntities title.toList
    complexity := Text.escapeEntities chart.complexity.label.toList
    description := Text.escapeEntities chart.complexity.description.toList
    runtime := runtime.toList
    memory := memory.toList
    memoryNote := memoryNote.toList
    datasets := datasets.write
    ceiling := ceiling.display }

/-- The page of a chart under a title. -/
def page (chart : Chart) (title : String) : Except Failure (List Char) :=
  (chart.pageParts title).map PageParts.text

end Chart

end OrderOfGrowth
