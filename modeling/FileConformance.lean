import FileConformance.Text.Quoted
import FileConformance.Scenario
import FileConformance.Store.Calls
import FileConformance.Faults
import FileConformance.Disk.Location
import FileConformance.Disk.Listing
import FileConformance.Directory
import FileConformance.Transcript
import FileConformance.CommandLine.Execution
import FileConformance.Main
import FileConformance.Proofs.Store.Durability
import FileConformance.Proofs.Store.ShutDown
import FileConformance.Proofs.Store.Refusal
import FileConformance.Proofs.Store.Capacity
import FileConformance.Proofs.Store.Bijection
import FileConformance.Proofs.Store.Bystanders
import FileConformance.Proofs.Store.Corruption
import FileConformance.Proofs.Plain.Refinement
import FileConformance.Proofs.Plain.Twins
import FileConformance.Proofs.Scenario.Verdict
import FileConformance.Proofs.Scenario.TableInStep
import FileConformance.Proofs.Scenario.Records
import FileConformance.Proofs.Scenario.Shape
import FileConformance.Proofs.Scenario.Blame
import FileConformance.Proofs.Scenario.Leftovers
import FileConformance.Proofs.Handles.Freshness
import FileConformance.Proofs.Ideal.Verdict
import FileConformance.Proofs.Directory.Agreement
import FileConformance.Proofs.Directory.Verdict
import FileConformance.Proofs.RoundTrip.Exits
import FileConformance.Proofs.Directory.Touching
import FileConformance.Proofs.CommandLine.Simulated
import FileConformance.Proofs.Report.Reading
import FileConformance.Proofs.Store.Charging
import FileConformance.Proofs.RoundTrip.Completion
import FileConformance.Proofs.RoundTrip.Renewal
import FileConformance.Proofs.Store.EmptyTransfers
import FileConformance.Proofs.Boundary.Discrimination
import FileConformance.Proofs.Bulk.Independence
import FileConformance.Proofs.Scenario.Termination
import FileConformance.Proofs.Pattern.Period
import FileConformance.Proofs.Report.Account
import FileConformance.Proofs.Store.Flushing
