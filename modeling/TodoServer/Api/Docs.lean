/-!
# The page of the documentation

A page that shows the description of the API.
-/

namespace TodoServer.Api

/-- The lines of the page. -/
def docsLines : List String :=
  ["<!DOCTYPE html>",
    "<html lang=\"en\">",
    "<head>",
    "    <meta charset=\"UTF-8\">",
    "    <meta name=\"viewport\" content=\"width=device-width, initial-scale=1.0\">",
    "    <title>Kotodo API Documentation</title>",
    "    <link rel=\"stylesheet\" type=\"text/css\" " ++
      "href=\"https://unpkg.com/swagger-ui-dist@5/swagger-ui.css\">",
    "    <style>",
    "        html \x7b box-sizing: border-box; overflow-y: scroll; \x7d",
    "        *, *:before, *:after \x7b box-sizing: inherit; \x7d",
    "        body \x7b margin: 0; background: #fafafa; \x7d",
    "    </style>",
    "</head>",
    "<body>",
    "    <div id=\"swagger-ui\"></div>",
    "    <script src=\"https://unpkg.com/swagger-ui-dist@5/swagger-ui-bundle.js\"></script>",
    "    <script src=\"https://unpkg.com/swagger-ui-dist@5/" ++
      "swagger-ui-standalone-preset.js\"></script>",
    "    <script>",
    "        window.onload = () => \x7b",
    "            window.ui = SwaggerUIBundle(\x7b",
    "                url: \"/api/openapi.json\",",
    "                dom_id: \x27#swagger-ui\x27,",
    "                presets: [",
    "                    SwaggerUIBundle.presets.apis,",
    "                    SwaggerUIStandalonePreset",
    "                ],",
    "                layout: \"StandaloneLayout\",",
    "                deepLinking: true,",
    "                showExtensions: true,",
    "                showCommonExtensions: true",
    "            \x7d);",
    "        \x7d;",
    "    </script>",
    "</body>",
    "</html>"]

/-- The page. -/
def docsPage : String :=
  "\n".intercalate docsLines

end TodoServer.Api
