import H3Bench.Python.Text
import H3Bench.Python.Value
import H3Bench.Python.Float
import H3Bench.Plots.LatexEscape
import H3Bench.Collect.Memory
import H3Bench.Collect.BundleMeta
import H3Bench.Collect.Timestamp
import H3Bench.Collect.Scalars
import H3Bench.Collect.Docker
import H3Bench.Python.Sort
import H3Bench.Collect.Aggregate
import H3Bench.Collect.Runs
import H3Bench.Collect.Pipeline
import H3Bench.Plots.Format
import H3Bench.Plots.LatexTable
import H3Bench.Plots.Tables
import H3Bench.Plots.BestConfig
