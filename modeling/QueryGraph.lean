import QueryGraph.Main
import QueryGraph.Proofs.Command.Delivery
import QueryGraph.Proofs.Command.Failure
import QueryGraph.Proofs.Command.Quiet
import QueryGraph.Proofs.Graph.Annotating
import QueryGraph.Proofs.Graph.Display
import QueryGraph.Proofs.Graph.Elements
import QueryGraph.Proofs.Graph.Growth
import QueryGraph.Proofs.Graph.Identity
import QueryGraph.Proofs.Graph.Order
import QueryGraph.Proofs.Graph.Regroup
import QueryGraph.Proofs.Graph.Renaming
import QueryGraph.Proofs.Graph.Retyping
import QueryGraph.Proofs.Graph.Roles
import QueryGraph.Proofs.Graph.Selection
import QueryGraph.Proofs.Rdf.LongestNamespace
import QueryGraph.Proofs.Sparql.Nesting
import QueryGraph.Proofs.Sparql.Readable
import QueryGraph.Proofs.Sparql.Relevance
import QueryGraph.Proofs.Sparql.Sections
import QueryGraph.Proofs.Graph.Upkeep
import QueryGraph.Proofs.Sparql.Declarations
import QueryGraph.Proofs.Graph.GraphNames
import QueryGraph.Proofs.Graph.Entries
import QueryGraph.Proofs.Graph.OneLine
import QueryGraph.Proofs.Graph.Events
