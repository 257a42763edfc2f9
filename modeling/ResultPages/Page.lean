/-
The result page.

A page is the document of one flow: a title, which the operator chooses, and the message of
an outcome.  `Page.html` is the document.  The title stands in it twice and the heading of
the flow twice; the message stands once, inside the element named `displayTarget`.  All
three are escaped where they stand; the title is the only one that can be any text.
-/
import ResultPages.Flow
import ResultPages.Page.Markup

namespace ResultPages

/-- The title of the pages when the operator gives none. -/
def defaultTitle : String := "Never Expires"

/-- A result page. -/
structure Page where
  /-- The flow that ends on the page. -/
  flow : Flow
  /-- The title, as the operator wrote it. -/
  title : String
  /-- What the user is told. -/
  message : String
deriving DecidableEq, Repr

namespace Page

/-- The page of a flow for the status it is asked for. -/
def ofStatus (f : Flow) (title : String) (status : Option String) : Page :=
  ⟨f, title, (Outcome.ofStatus f status).message⟩

/-- The identifier of the element that holds the message. -/
def displayTarget : String := "statusMessage"

/-- The document up to the title. -/
def opening : String :=
  "<!DOCTYPE html>\n" ++
  "<html lang=\"en\">\n" ++
  "<head>\n" ++
  "  <meta charset=\"utf-8\">\n" ++
  "  <meta name=\"viewport\" content=\"width=device-width, initial-scale=1\">\n" ++
  "  <title>"

/-- The document between its title and its main heading: the style sheet. -/
def styling : String :=
  "</title>\n" ++
  "  <style>\n" ++
  "    body \x7b font-family: -apple-system, BlinkMacSystemFont, \"Segoe UI\", Helvetica, " ++
    "Arial, sans-serif; margin: 0; background: #f5f5f7; color: #1d1d1f; \x7d\n" ++
  "    main \x7b max-width: 32rem; margin: 15vh auto 0; padding: 2rem; background: #fff; " ++
    "border-radius: 12px; text-align: center; \x7d\n" ++
  "    h1 \x7b font-size: 1.5rem; margin: 0 0 .5rem; \x7d\n" ++
  "    h2 \x7b font-size: 1rem; font-weight: normal; color: #6e6e73; margin: 0 0 1.5rem; \x7d\n" ++
  "    p \x7b font-size: 1.1rem; line-height: 1.5; \x7d\n" ++
  "  </style>\n" ++
  "</head>\n" ++
  "<body>\n" ++
  "  <main>\n    "

/-- The document after the message. -/
def closing : String :=
  "</p>\n" ++
  "  </main>\n" ++
  "</body>\n" ++
  "</html>"

/-- The tag that opens the element with the message. -/
def displayTag : String := "<p id=\"" ++ displayTarget ++ "\">"

/-- The document. -/
def html (p : Page) : String :=
  let title := Markup.text p.title
  let heading := Markup.text p.flow.heading
  opening ++ title ++ " - " ++ heading ++ styling ++
    "<h1>" ++ title ++ "</h1>\n    " ++
    "<h2>" ++ heading ++ "</h2>\n    " ++
    displayTag ++ Markup.text p.message ++ closing

end Page

end ResultPages
