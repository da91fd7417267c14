import DocExcerpt.Main
import DocExcerpt.Proofs.Fetch.Cancellation
import DocExcerpt.Proofs.Link.Relinked
import DocExcerpt.Proofs.Page.Lines
import DocExcerpt.Proofs.Page.Description
import DocExcerpt.Proofs.Page.Disturbed
import DocExcerpt.Proofs.Source.Agreement
import DocExcerpt.Proofs.Http.Visiting
import DocExcerpt.Proofs.Detection.Success
import DocExcerpt.Proofs.Fetch.Delivery
import DocExcerpt.Proofs.Link.Locality
import DocExcerpt.Proofs.Link.ClassPage
import DocExcerpt.Proofs.Source.Streaming
import DocExcerpt.Proofs.Fetch.Memory
import DocExcerpt.Proofs.Link.Site
import DocExcerpt.Proofs.Page.Member
import DocExcerpt.Proofs.Page.LineByLine
import DocExcerpt.Proofs.Link.Together
import DocExcerpt.Proofs.Link.Fragment
import DocExcerpt.Proofs.Symbols.SymbolFile
import DocExcerpt.Proofs.Provider.Heading
import DocExcerpt.Proofs.Files.Walking
import DocExcerpt.Proofs.Files.Directories
import DocExcerpt.Proofs.Settings.FirstUse
