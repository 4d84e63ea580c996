import GoFixtures.CommandLine.Run
import GoFixtures.Main
import GoFixtures.Playground
import GoFixtures.Proofs.Expansion
import GoFixtures.Proofs.Catalogue
import GoFixtures.Proofs.Declared
import GoFixtures.Proofs.Calls
import GoFixtures.Proofs.ClosedModel
import GoFixtures.Proofs.Json.Strings
import GoFixtures.Proofs.Json.Documents
import GoFixtures.Proofs.Library.Documented
import GoFixtures.Proofs.Library.Standard
import GoFixtures.Proofs.Json.Artifacts
import GoFixtures.Proofs.Go.Layout
import GoFixtures.Proofs.Go.Functions
import GoFixtures.Proofs.Go.Names
import GoFixtures.Proofs.Go.Decomposition
import GoFixtures.Proofs.Go.Joining
import GoFixtures.Proofs.Go.Respelling
import GoFixtures.Proofs.Go.Progress
import GoFixtures.Proofs.ModelNames
import GoFixtures.Proofs.Fixture.Pieces
import GoFixtures.Proofs.Fixture.Values
import GoFixtures.Proofs.Fixture.Functions
import GoFixtures.Proofs.Fixture.Files
import GoFixtures.Proofs.Members
import GoFixtures.Proofs.Scopes
import GoFixtures.Proofs.DeclarationOrder
import GoFixtures.Proofs.Fixture.Dependencies
import GoFixtures.Proofs.Fixture.Styles
import GoFixtures.Proofs.Fixture.Imports
import GoFixtures.Proofs.Go.Rendering
import GoFixtures.Proofs.Go.Types
import GoFixtures.Proofs.Go.Declarations
import GoFixtures.Proofs.Go.Spelling
import GoFixtures.Proofs.Redeclarations
import GoFixtures.Proofs.CommandLine.Steps
import GoFixtures.Proofs.CommandLine.Reasons
import GoFixtures.Proofs.Go.Faults
import GoFixtures.Proofs.Go.Literals
import GoFixtures.Proofs.Histories
import GoFixtures.Proofs.CommandLine.Reports
import GoFixtures.Proofs.Separators
import GoFixtures.Proofs.Fixture.Typing
import GoFixtures.Proofs.Go.PassedOver
import GoFixtures.Proofs.Go.TypeParameters
import GoFixtures.Proofs.Fixture.Spellings
import GoFixtures.Proofs.Fixture.Additions
import GoFixtures.Proofs.Constants
import GoFixtures.Proofs.NamedTypes
import GoFixtures.Proofs.Directories
import GoFixtures.Proofs.Packages
import GoFixtures.Proofs.Go.Matching
