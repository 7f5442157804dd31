namespace HostTelemetry.Script

-- What a host runs when no other command is configured: it gathers every reading
-- and prints one object.
def lines : List String := [
  "export LC_ALL=C",
  "export LANG=C",
  "",
  "json_str() \x7b printf '%s' \"$1\" | sed 's/\\\\/\\\\\\\\/g; s/\"/\\\\\"/g'; \x7d",
  "num_or_null() \x7b if [ -n \"$1\" ]; then printf '%s' \"$1\"; else printf 'null'; fi; \x7d",
  "",
  "# energy counter (powercap / RAPL)",
  "energy_file=\"\"",
  "for path in /sys/class/powercap/*/energy_uj; do",
  "  if [ -r \"$path\" ]; then energy_file=$path; break; fi",
  "done",
  "energy_before=\"\"",
  "energy_after=\"\"",
  "energy_range=\"\"",
  "if [ -n \"$energy_file\" ]; then",
  "  energy_before=$(cat \"$energy_file\" 2>/dev/null || echo \"\")",
  "  dir=$(dirname \"$energy_file\")",
  "  if [ -r \"$dir/max_energy_range_uj\" ]; then",
  "    energy_range=$(cat \"$dir/max_energy_range_uj\" 2>/dev/null || echo \"\")",
  "  fi",
  "fi",
  "",
  "# cpu over a one second window",
  "read -r _ user nice system idle iowait irq softirq steal _ < /proc/stat",
  "prev_total=$((user+nice+system+idle+iowait+irq+softirq+steal))",
  "prev_idle=$((idle+iowait))",
  "sleep 1",
  "if [ -n \"$energy_file\" ]; then",
  "  energy_after=$(cat \"$energy_file\" 2>/dev/null || echo \"\")",
  "fi",
  "read -r _ user nice system idle iowait irq softirq steal _ < /proc/stat",
  "total=$((user+nice+system+idle+iowait+irq+softirq+steal))",
  "d_total=$((total-prev_total))",
  "d_idle=$((idle+iowait-prev_idle))",
  "if [ \"$d_total\" -gt 0 ]; then",
  "  cpu=$(( (100*(d_total-d_idle) + d_total/2) / d_total ))",
  "else",
  "  cpu=0",
  "fi",
  "",
  "# memory and swap",
  "mem_total=$(awk '/^MemTotal:/ \x7bprint $2\x7d' /proc/meminfo)",
  "mem_avail=$(awk '/^MemAvailable:/ \x7bprint $2\x7d' /proc/meminfo)",
  "[ -z \"$mem_avail\" ] && mem_avail=$(awk '/^MemFree:/ \x7bprint $2\x7d' /proc/meminfo)",
  "mem=$(( (100*(mem_total-mem_avail) + mem_total/2) / mem_total ))",
  "ram=$(( (mem_total + 512) / 1024 ))",
  "swap_total_kb=$(awk '/^SwapTotal:/ \x7bprint $2\x7d' /proc/meminfo)",
  "swap_free_kb=$(awk '/^SwapFree:/ \x7bprint $2\x7d' /proc/meminfo)",
  "swap_total=$(( $\x7bswap_total_kb:-0\x7d * 1024 ))",
  "if [ \"$\x7bswap_total_kb:-0\x7d\" -gt 0 ]; then",
  "  swap_usage=$(( (100*(swap_total_kb-swap_free_kb) + swap_total_kb/2) / swap_total_kb ))",
  "else",
  "  swap_usage=0",
  "fi",
  "",
  "# root usage, per-filesystem capacity",
  "disk=$(df -P / | awk 'NR==2 \x7bprint $5\x7d' | tr -d '%')",
  "disk_total_bytes=0",
  "disk_entries=\"\"",
  "df_lines=$(df -PB1 --output=source,target,size,avail -x tmpfs -x devtmpfs -x squashfs -x overlay 2>/dev/null | tail -n +2)",
  "if [ -n \"$df_lines\" ]; then",
  "  while read -r source target size avail; do",
  "    [ -z \"$source\" ] && continue",
  "    [ -z \"$size\" ] && continue",
  "    disk_total_bytes=$((disk_total_bytes + size))",
  "    disk_entries=\"$disk_entries\x7b\\\"name\\\":\\\"$(json_str \"$source\")\\\",\\\"mount\\\":\\\"$(json_str \"$target\")\\\",\\\"total\\\":$size,\\\"free\\\":$avail\x7d,\"",
  "  done <<EOF",
  "$df_lines",
  "EOF",
  "fi",
  "disk_stats=\"[$\x7bdisk_entries%,\x7d]\"",
  "",
  "# cumulative block device bytes (whole disks only)",
  "disk_io=$(awk '$3 !~ /^(loop|ram|dm-|sr)/ && $3 !~ /[0-9]p[0-9]+$/ && $3 !~ /^(sd|vd|xvd|hd)[a-z]+[0-9]+$/ \x7br+=$6; w+=$10\x7d END \x7bprintf \"%.0f %.0f\", r*512, w*512\x7d' /proc/diskstats 2>/dev/null)",
  "disk_read=$\x7bdisk_io% *\x7d",
  "disk_write=$\x7bdisk_io#* \x7d",
  "",
  "uptime=$(awk '\x7bprint int($1)\x7d' /proc/uptime)",
  "cores=$(nproc)",
  "read -r load_1 load_5 load_15 _ < /proc/loadavg",
  "processes=$(ls -d /proc/[0-9]* 2>/dev/null | wc -l)",
  "",
  "cpu_freq=\"\"",
  "if [ -r /sys/devices/system/cpu/cpu0/cpufreq/scaling_cur_freq ]; then",
  "  cpu_freq=$(awk '\x7bprintf \"%.0f\", $1/1000\x7d' /sys/devices/system/cpu/cpu0/cpufreq/scaling_cur_freq 2>/dev/null)",
  "fi",
  "",
  "os=$( (grep '^PRETTY_NAME' /etc/os-release 2>/dev/null | cut -d= -f2 | tr -d '\"') || uname -sr )",
  "",
  "# pending package updates",
  "pkg_count=0",
  "pkg_list=\"\"",
  "updates=\"\"",
  "if command -v apt-get >/dev/null 2>&1; then",
  "  updates=$(apt-get -s upgrade 2>/dev/null | awk '/^Inst /\x7bprint $2\x7d')",
  "elif command -v dnf >/dev/null 2>&1; then",
  "  updates=$(dnf -q check-update 2>/dev/null | awk '/^[[:alnum:].-]+[[:space:]]/ \x7bprint $1\x7d')",
  "elif command -v yum >/dev/null 2>&1; then",
  "  updates=$(yum -q check-update 2>/dev/null | awk '/^[[:alnum:].-]+[[:space:]]/ \x7bprint $1\x7d')",
  "fi",
  "if [ -n \"$updates\" ]; then",
  "  pkg_count=$(printf '%s\\n' \"$updates\" | wc -l)",
  "  pkg_list=$(printf '%s\\n' \"$updates\" | head -n 10 | tr '\\n' ',' | sed 's/,$//')",
  "fi",
  "",
  "# docker",
  "docker=0",
  "containers=\"\"",
  "container_entries=\"\"",
  "if command -v docker >/dev/null 2>&1 && docker info >/dev/null 2>&1; then",
  "  docker=1",
  "  containers=$(docker ps --format '\x7b\x7b.Names\x7d\x7d' 2>/dev/null | tr '\\n' ',' | sed 's/,$//')",
  "  container_entries=$(docker stats --no-stream --format '\x7b\x7b.Name\x7d\x7d:\x7b\x7b.CPUPerc\x7d\x7d:\x7b\x7b.MemPerc\x7d\x7d' 2>/dev/null | sed 's/%//g' | awk -F: '\x7bprintf \"\x7b\\\"name\\\":\\\"%s\\\",\\\"cpu\\\":%.2f,\\\"mem\\\":%.2f\x7d,\", $1, $2+0, $3+0\x7d')",
  "fi",
  "container_stats=\"[$\x7bcontainer_entries%,\x7d]\"",
  "",
  "# listening services",
  "sockets=\"\"",
  "if command -v ss >/dev/null 2>&1; then",
  "  sockets=$(ss -tuln 2>/dev/null)",
  "elif command -v netstat >/dev/null 2>&1; then",
  "  sockets=$(netstat -tuln 2>/dev/null)",
  "fi",
  "listening() \x7b printf '%s\\n' \"$sockets\" | grep -Eq \":($1)[[:space:]]\" && echo yes || echo no; \x7d",
  "ssh_enabled=$(listening 22)",
  "web=$(listening '80|443')",
  "vnc=$(listening 5900)",
  "if [ \"$vnc\" = no ] && \x7b command -v vncserver >/dev/null 2>&1 || command -v x11vnc >/dev/null 2>&1; \x7d; then",
  "  vnc=yes",
  "fi",
  "",
  "local_ip=$(hostname -I 2>/dev/null | awk '\x7bprint $1\x7d')",
  "",
  "temp=\"\"",
  "if [ -r /sys/class/thermal/thermal_zone0/temp ]; then",
  "  t=$(cat /sys/class/thermal/thermal_zone0/temp 2>/dev/null || echo \"\")",
  "  [ -n \"$t\" ] && temp=$(awk -v v=\"$t\" 'BEGIN\x7bprintf \"%.1f\", (v>=1000?v/1000:v)\x7d')",
  "fi",
  "",
  "sensors=\"\x7b\x7d\"",
  "if command -v sensors >/dev/null 2>&1; then",
  "  s=$(sensors -j 2>/dev/null | tr -d '\\n')",
  "  case \"$s\" in",
  "    \"\x7b\"*) sensors=$s ;;",
  "  esac",
  "fi",
  "",
  "# network bytes over all non-loopback interfaces",
  "rx=$(awk -F'[: ]+' '/:/\x7bif($2!=\"lo\")\x7brx+=$3\x7d\x7d END\x7bprintf \"%.0f\", rx\x7d' /proc/net/dev)",
  "tx=$(awk -F'[: ]+' '/:/\x7bif($2!=\"lo\")\x7btx+=$11\x7d\x7d END\x7bprintf \"%.0f\", tx\x7d' /proc/net/dev)",
  "",
  "power_w=\"\"",
  "energy_uj=\"\"",
  "if [ -n \"$energy_before\" ] && [ -n \"$energy_after\" ]; then",
  "  after=$energy_after",
  "  if [ \"$energy_after\" -lt \"$energy_before\" ] && [ -n \"$energy_range\" ]; then",
  "    after=$((energy_after + energy_range))",
  "  fi",
  "  delta=$((after - energy_before))",
  "  [ \"$delta\" -lt 0 ] && delta=0",
  "  power_w=$(awk -v d=\"$delta\" 'BEGIN\x7bprintf \"%.2f\", d/1000000\x7d')",
  "  energy_uj=$energy_after",
  "fi",
  "",
  "printf '\x7b\"cpu\":%s,\"mem\":%s,\"swap_usage\":%s,\"swap_total\":%s,\"disk\":%s,\"disk_capacity_total\":%s,\"disk_stats\":%s,\"disk_read\":%s,\"disk_write\":%s,\"uptime\":%s,\"temp\":%s,\"rx\":%s,\"tx\":%s,\"ram\":%s,\"cores\":%s,\"load_1\":%s,\"load_5\":%s,\"load_15\":%s,\"cpu_freq\":%s,\"processes\":%s,\"os\":\"%s\",\"pkg_count\":%s,\"pkg_list\":\"%s\",\"docker\":%s,\"containers\":\"%s\",\"container_stats\":%s,\"vnc\":\"%s\",\"web\":\"%s\",\"ssh\":\"%s\",\"local_ip\":\"%s\",\"sensors\":%s,\"power_w\":%s,\"energy_uj\":%s,\"energy_range_uj\":%s\x7d\\n' \\",
  "  \"$cpu\" \"$mem\" \"$swap_usage\" \"$swap_total\" \"$disk\" \"$disk_total_bytes\" \"$disk_stats\" \\",
  "  \"$(num_or_null \"$disk_read\")\" \"$(num_or_null \"$disk_write\")\" \"$uptime\" \"$(num_or_null \"$temp\")\" \\",
  "  \"$rx\" \"$tx\" \"$ram\" \"$cores\" \"$load_1\" \"$load_5\" \"$load_15\" \"$(num_or_null \"$cpu_freq\")\" \"$processes\" \\",
  "  \"$(json_str \"$os\")\" \"$pkg_count\" \"$(json_str \"$pkg_list\")\" \"$docker\" \"$(json_str \"$containers\")\" \\",
  "  \"$container_stats\" \"$vnc\" \"$web\" \"$ssh_enabled\" \"$(json_str \"$local_ip\")\" \"$sensors\" \\",
  "  \"$(num_or_null \"$power_w\")\" \"$(num_or_null \"$energy_uj\")\" \"$(num_or_null \"$energy_range\")\""]

def text : String :=
  String.join (lines.map (· ++ "\n"))

end HostTelemetry.Script
