import DocExcerpt.Detection
import DocExcerpt.Fetch.Coordinator
import DocExcerpt.Link.Rule

/-!
# Documentation for a viewer

A provider hands out the documentation of code elements as texts that a viewer outside the site
can show: excerpts of pages, or texts in memory, with their links converted. A last pass over each
text is the viewer's own.
-/

namespace DocExcerpt

/-- The code element whose documentation is asked for. -/
inductive Target where
  | method (containingClass : Text)
  | other
  deriving DecidableEq, Repr

/-- A provider: which symbols the viewer knows, its own pass over a text, where pages come from,
and how far a detection looks. -/
structure Provider where
  resolver : Resolver
  adjust : Text → Text
  sources : Sources
  lookahead : Nat

/-! ## The heading of a method -/

/-- Replaces the first heading of the third level by one with the given content. A heading has
some content and lies in one line. -/
def replaceHeading (content : Text) : Text → Text
  | [] => []
  | c :: t =>
    match Text.afterPhrase? "<H3>".toList (c :: t) with
    | none => c :: replaceHeading content t
    | some [] => c :: replaceHeading content t
    | some (first :: rest) =>
      match Text.splitAtPhrase? "</H3>".toList rest with
      | some (inner, after) =>
        if '\n' ∈ first :: inner then c :: replaceHeading content t
        else "<H3>".toList ++ content ++ "</H3>".toList ++ after
      | none => c :: replaceHeading content t

namespace Provider

/-- Makes an excerpt of the page at an address fit for the viewer. -/
def present (provider : Provider) (address excerpt : Text) : Text :=
  provider.adjust
    (Link.relink provider.resolver (Link.withoutFragment address) excerpt)

/-- The documentation at an address, as the viewer is shown it. None if another fetch is under
way, if the page is not there, or if it does not have the section. -/
def external (provider : Provider) (coordinator : Fetch.Coordinator) (address : Text) :
    Except FetchError (Option Text) × Fetch.Coordinator :=
  let (answer, coordinator) :=
    coordinator.fetch fun cancelled => provider.sources.fetchExcerpt cancelled address
  (answer.map (·.map (provider.present address)), coordinator)

/-- The documentation of a code element. That of a method is headed by the name of its class. -/
def externalFor (provider : Provider) (coordinator : Fetch.Coordinator) (address : Text)
    (target : Target) : Except FetchError (Option Text) × Fetch.Coordinator :=
  let (answer, coordinator) := provider.external coordinator address
  match target with
  | .other => (answer, coordinator)
  | .method containingClass => (answer.map (·.map (replaceHeading containingClass)), coordinator)

/-- Documentation that is already in memory. Its links are converted if its address is known. -/
def internal (provider : Provider) (text : Option Text) (address : Option Text) : Option Text :=
  text.map fun text =>
    match address with
    | none => provider.adjust text
    | some address =>
      Link.relink provider.resolver (Link.withoutFragment address) (provider.adjust text)

/-- Whether the page at an address was written by the javadoc tool. -/
def isJavadoc (provider : Provider) (address : Text) : Bool :=
  Detection.isJavadoc provider.sources provider.lookahead address

end Provider

end DocExcerpt
