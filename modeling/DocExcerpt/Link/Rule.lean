import DocExcerpt.Link.Address
import DocExcerpt.Link.Selector
import DocExcerpt.Url.Parse

/-!
# Link rules

A rule says which values of a page are links of its kind and what each becomes, given the address
`root` of the page. Anchors become references to a known symbol or to a page; images become
addresses that a viewer outside the site can load.
-/

namespace DocExcerpt

/-- Tells whether a qualified class name is a known symbol. -/
abbrev Resolver := Text → Bool

def noSymbols : Resolver := fun _ => false

namespace Link

/-- A kind of link: the selector of its values, and what a value becomes on the page at a given
address. -/
structure Rule where
  selector : Selector
  convert : (root href : Text) → Text

/-- The scheme of a reference to a known symbol. -/
def symbolScheme : Text := "psi_element://".toList

/-- The scheme of a reference to a documentation page. -/
def pageScheme : Text := "doc_element://".toList

/-- A link to a place on its own page, such as `#field`: the page address without its suffix,
followed by the link. -/
def fragmentReference (root href : Text) : Text :=
  pageScheme ++ withoutFinalPageSuffix root ++ href

/-- The name of a link in the dotted notation of symbols, its fragment included: no page suffix,
no leading `../`, and dots for slashes. -/
def symbolName (href : Text) : Text :=
  (withoutLeadingParents (withoutPageSuffixes href)).map fun c => if c = '/' then '.' else c

/-- What an anchor on the page `root` becomes. An absolute address stays. -/
def convertAnchor (known : Resolver) (root href : Text) : Text :=
  if Url.isAbsolute href then href
  else if href.head? = some '#' then fragmentReference root href
  else if known (withoutFragment (symbolName href)) then symbolScheme ++ symbolName href
  else pageScheme ++ collapseParents (directory root ++ href)

/-- What an image source on the page `root` becomes. -/
def convertImage (root href : Text) : Text :=
  if href.head? = some '#' then fragmentReference root href
  else directory root ++ href

def anchorRule (known : Resolver) : Rule := ⟨.anchors, convertAnchor known⟩

def imageRule : Rule := ⟨.images, convertImage⟩

def Rule.apply (rule : Rule) (root text : Text) : Text :=
  rule.selector.replaceValues (rule.convert root) text

/-- Converts all links on the page at `root`: the anchors first, then the images. -/
def relink (known : Resolver) (root text : Text) : Text :=
  imageRule.apply root ((anchorRule known).apply root text)

end Link

end DocExcerpt
