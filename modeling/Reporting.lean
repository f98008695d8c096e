import Reporting.Proofs.AmountTexts
import Reporting.Proofs.Authorization
import Reporting.Proofs.CalculationForms
import Reporting.Proofs.Columns
import Reporting.Proofs.Completion
import Reporting.Proofs.Confidentiality
import Reporting.Proofs.Conservation
import Reporting.Proofs.CsvReading
import Reporting.Proofs.Drivers
import Reporting.Proofs.Effects
import Reporting.Proofs.EntryPoints
import Reporting.Proofs.ExactIntegers
import Reporting.Proofs.Exports
import Reporting.Proofs.Expressions
import Reporting.Proofs.FieldSources
import Reporting.Proofs.FilteredGroups
import Reporting.Proofs.FiscalYears
import Reporting.Proofs.GroupRows
import Reporting.Proofs.Headers
import Reporting.Proofs.InsightKinds
import Reporting.Proofs.IntegerSeries
import Reporting.Proofs.Listing
import Reporting.Proofs.MergedAmounts
import Reporting.Proofs.Merging
import Reporting.Proofs.NumberTexts
import Reporting.Proofs.NumeralValues
import Reporting.Proofs.Paging
import Reporting.Proofs.RankedRows
import Reporting.Proofs.Ranks
import Reporting.Proofs.RollUp
import Reporting.Proofs.RowOrder
import Reporting.Proofs.RunOutcomes
import Reporting.Proofs.Sheets
import Reporting.Proofs.SliceSums
import Reporting.Proofs.SortOrder
import Reporting.Proofs.TableRecords
import Reporting.Proofs.Uploads
import Reporting.Proofs.Visibility
import Reporting.Proofs.WireForms
import Reporting.Proofs.WrappedSums
import Reporting.Proofs.YearStarts
import Reporting.Server.Session
import Reporting.Wire.Sheet
