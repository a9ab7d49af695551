import PatternAutomata.CompiledPattern
import PatternAutomata.Journal
import PatternAutomata.Census
import PatternAutomata.Automaton.Workbench
import PatternAutomata.Automaton.Path
import PatternAutomata.Automaton.Renaming
import PatternAutomata.Pattern.Language
import PatternAutomata.Proofs.Viability
import PatternAutomata.Proofs.ReadBack
import PatternAutomata.Proofs.Numbering
import PatternAutomata.Proofs.Recording
import PatternAutomata.Proofs.LongestPrefix
import PatternAutomata.Proofs.Assembly
import PatternAutomata.Proofs.Rewriting
import PatternAutomata.Proofs.Size
import PatternAutomata.Proofs.Acceptance
import PatternAutomata.Proofs.Layout
import PatternAutomata.Proofs.LongestNode
import PatternAutomata.Proofs.Faults
import PatternAutomata.Proofs.Exploration
import PatternAutomata.Proofs.Equivariance
import PatternAutomata.Proofs.Separators
import PatternAutomata.Proofs.TraceText
import PatternAutomata.Proofs.AutomatonText
import PatternAutomata.Proofs.Consumption
