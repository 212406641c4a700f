import ChainScript.Main
import ChainScript.Shell
import ChainScript.Proofs.Trim
import ChainScript.Proofs.Cutting
import ChainScript.Proofs.Splitting
import ChainScript.Proofs.Numerals
import ChainScript.Proofs.ChainText
import ChainScript.Proofs.Resplitting
import ChainScript.Proofs.Declaring
import ChainScript.Proofs.Entering
import ChainScript.Proofs.CallStack
import ChainScript.Proofs.Bindings
import ChainScript.Proofs.Simulation
import ChainScript.Proofs.Agreement
import ChainScript.Proofs.Relay
import ChainScript.Proofs.Shadowing
import ChainScript.Proofs.Layers
import ChainScript.Proofs.Loading
import ChainScript.Proofs.Inclusions
import ChainScript.Proofs.Cycles
import ChainScript.Proofs.Naming
import ChainScript.Proofs.Warnings
import ChainScript.Proofs.Calling
import ChainScript.Proofs.Expansion
import ChainScript.Proofs.Independence
import ChainScript.Proofs.Reporting
import ChainScript.Proofs.Literals
import ChainScript.Proofs.Moments
import ChainScript.Proofs.Flattening
import ChainScript.Proofs.Deletion
import ChainScript.Proofs.Containment
import ChainScript.Proofs.Composition
import ChainScript.Proofs.Defaults
import ChainScript.Proofs.Listing
import ChainScript.Proofs.Routing
import ChainScript.Proofs.PassingOn
import ChainScript.Proofs.Lassos
import ChainScript.Proofs.Floats
import ChainScript.Proofs.WellFormed
import ChainScript.Proofs.Lines
import ChainScript.Proofs.Switching
import ChainScript.Proofs.Merging
import ChainScript.Proofs.Searching
import ChainScript.Proofs.Comparing
import ChainScript.Proofs.Stretches
import ChainScript.Proofs.Grammar
import ChainScript.Proofs.Unquoted
import ChainScript.Proofs.Spacing
