/-!
The elements of HTML by what they mean for nesting. Each list names the elements that share a rule;
elements that are in no list nest as they are written.
-/

set_option autoImplicit false
set_option relaxedAutoImplicit false

namespace MarkupRecords.Html

/-- Elements without content. -/
def metadataVoids : List String := ["base", "basefont", "bgsound", "link", "meta"]

/-- Elements that belong into the head, wherever they are written. -/
def headContents : List String :=
  metadataVoids ++ ["noframes", "script", "style", "title"]

/-- Elements whose start ends an open paragraph. -/
def blocks : List String := [
  "address", "article", "aside", "blockquote", "center", "details", "dialog", "dir", "div", "dl",
  "fieldset", "figcaption", "figure", "footer", "header", "hgroup", "main", "menu", "nav", "ol",
  "p", "search", "section", "summary", "ul"]

/-- Elements whose end closes what is open inside them. -/
def enclosing : List String := [
  "address", "article", "aside", "blockquote", "button", "center", "details", "dialog", "dir",
  "div", "dl", "fieldset", "figcaption", "figure", "footer", "header", "hgroup", "listing", "main",
  "menu", "nav", "ol", "pre", "search", "section", "summary", "ul"]

/-- Headings, each of which ends every other. -/
def headings : List String := ["h1", "h2", "h3", "h4", "h5", "h6"]

/-- Elements of formatting, which go on after a block that ends them too early. -/
def formattingNames : List String := [
  "a", "b", "big", "code", "em", "font", "i", "nobr", "s", "small", "strike", "strong", "tt", "u"]

/-- Elements that keep formatting apart. -/
def embeddings : List String := ["applet", "marquee", "object"]

/-- Elements without content that stand among text. -/
def inlineVoids : List String := ["area", "br", "embed", "img", "input", "keygen", "wbr"]

/-- Elements without content that belong to another element. -/
def sourceVoids : List String := ["param", "source", "track"]

/-- Elements that are open inside a table and not in a cell. -/
def tableParts : List String := ["table", "tbody", "tfoot", "thead", "tr"]

/-- The groups of rows. -/
def rowGroups : List String := ["tbody", "tfoot", "thead"]

/-- The cells. -/
def cells : List String := ["td", "th"]

/-- Elements that stand nowhere but in tables. -/
def tableContents : List String :=
  ["caption", "col", "colgroup", "tbody", "td", "tfoot", "th", "thead", "tr"]

/-- Elements whose end the end of another element implies. -/
def impliedEnds : List String :=
  ["dd", "dt", "li", "optgroup", "option", "p", "rb", "rp", "rt", "rtc"]

/-- Elements that an end tag does not look into from outside. -/
def scopeBounds : List String :=
  ["applet", "caption", "table", "td", "th", "marquee", "object", "template"]

/-- The bounds for list items. -/
def listBounds : List String := scopeBounds ++ ["ol", "ul"]

/-- The bounds for paragraphs. -/
def paragraphBounds : List String := scopeBounds ++ ["button"]

/-- The bounds for parts of tables. -/
def tableBounds : List String := ["table", "template"]

/-- Elements that the end tag of a plain element does not reach across. -/
def special : List String := [
  "address", "applet", "area", "article", "aside", "base", "basefont", "bgsound", "blockquote",
  "body", "br", "button", "caption", "center", "col", "colgroup", "dd", "details", "dir", "div",
  "dl", "dt", "embed", "fieldset", "figcaption", "figure", "footer", "form", "frame", "frameset",
  "h1", "h2", "h3", "h4", "h5", "h6", "head", "header", "hgroup", "hr", "html", "iframe", "img",
  "input", "isindex", "li", "link", "listing", "main", "marquee", "menu", "meta", "nav", "noembed",
  "noframes", "noscript", "object", "ol", "p", "param", "plaintext", "pre", "script", "section",
  "select", "source", "style", "summary", "table", "tbody", "td", "template", "textarea", "tfoot",
  "th", "thead", "title", "tr", "track", "ul", "wbr", "xmp"]

/-- What the text after a start tag is read as. -/
inductive Content where
  | markup
  /-- Text with references up to the end tag. -/
  | escapable
  /-- Text up to the end tag. -/
  | raw
  | script
  /-- Text up to the end of the document. -/
  | plain
deriving DecidableEq, Repr

/-- What stands in an element. -/
def contentOf (name : String) : Content :=
  if ["title", "textarea"].contains name then .escapable
  else if ["iframe", "noembed", "noframes", "noscript", "style", "xmp"].contains name then .raw
  else if name = "script" then .script
  else if name = "plaintext" then .plain
  else .markup

end MarkupRecords.Html
