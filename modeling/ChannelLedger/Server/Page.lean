/-!
# The page

What a browser gets: a page that opens a socket to the server, shows the dashboards that come in on
it, and asks for a block or a transaction when it is picked.
-/
namespace ChannelLedger.Server

/-- The lines of the page. -/
def pageLines : List String := [
  "<!DOCTYPE html>",
  "<html lang=\"en\">",
  "<head>",
  "<meta charset=\"utf-8\">",
  "<title>Fabric Ledger Inspector</title>",
  "<style>",
  "  body \x7b font-family: ui-monospace, monospace; background: #111; color: #ddd; margin: 2em; \x7d",
  "  h1 \x7b color: #6c6; font-size: 1.3em; \x7d",
  "  .stats \x7b display: flex; gap: 1.5em; margin-bottom: 1em; \x7d",
  "  .stat \x7b border: 1px solid #444; padding: 0.6em 1em; \x7d",
  "  .stat b \x7b display: block; color: #fc6; \x7d",
  "  table \x7b border-collapse: collapse; width: 100%; \x7d",
  "  th, td \x7b border-bottom: 1px solid #333; padding: 0.3em 0.6em; text-align: left; \x7d",
  "  th \x7b color: #fc6; \x7d",
  "  tr.block:hover \x7b background: #222; cursor: pointer; \x7d",
  "  #detail \x7b white-space: pre; margin-top: 1.5em; border: 1px solid #444; padding: 1em; display: none; \x7d",
  "  .invalid \x7b color: #e66; \x7d",
  "</style>",
  "</head>",
  "<body>",
  "<h1>🔍 Fabric Ledger Inspector</h1>",
  "<div class=\"stats\">",
  "  <div class=\"stat\"><b>Channel</b><span id=\"channel\">-</span></div>",
  "  <div class=\"stat\"><b>Height</b><span id=\"height\">-</span></div>",
  "  <div class=\"stat\"><b>Transactions</b><span id=\"txs\">-</span></div>",
  "  <div class=\"stat\"><b>Valid / Invalid</b><span id=\"validity\">-</span></div>",
  "  <div class=\"stat\"><b>Hash</b><span id=\"suite\">-</span></div>",
  "</div>",
  "<form id=\"search\"><input id=\"txid\" size=\"66\" placeholder=\"transaction id\"> <button>Find</button></form>",
  "<table>",
  "  <thead><tr><th>Number</th><th>Hash</th><th>Created</th><th>TXs</th></tr></thead>",
  "  <tbody id=\"blocks\"></tbody>",
  "</table>",
  "<div id=\"detail\"></div>",
  "<script>",
  "const socket = new WebSocket(`ws://$\x7blocation.host\x7d/ws`);",
  "const detail = document.getElementById('detail');",
  "",
  "function showDashboard(data) \x7b",
  "  const s = data.chain_stats;",
  "  document.getElementById('channel').textContent = s.channel_id || '-';",
  "  document.getElementById('height').textContent = s.block_height;",
  "  document.getElementById('txs').textContent = s.transactions_loaded;",
  "  document.getElementById('validity').textContent = `$\x7bs.valid_transactions\x7d / $\x7bs.invalid_transactions\x7d`;",
  "  document.getElementById('suite').textContent = s.hash_suite;",
  "  const rows = document.getElementById('blocks');",
  "  rows.innerHTML = '';",
  "  for (const b of data.recent_blocks) \x7b",
  "    const tr = document.createElement('tr');",
  "    tr.className = 'block';",
  "    for (const v of [b.number, b.hash.slice(0, 24) + '…', b.created_at || '-', b.transaction_count]) \x7b",
  "      const td = document.createElement('td');",
  "      td.textContent = v;",
  "      tr.appendChild(td);",
  "    \x7d",
  "    tr.onclick = () => socket.send(JSON.stringify(\x7b type: 'GetBlockDetail', number: b.number \x7d));",
  "    rows.appendChild(tr);",
  "  \x7d",
  "\x7d",
  "",
  "function show(text, invalid) \x7b",
  "  detail.style.display = 'block';",
  "  detail.className = invalid ? 'invalid' : '';",
  "  detail.textContent = text;",
  "\x7d",
  "",
  "socket.onmessage = (event) => \x7b",
  "  const msg = JSON.parse(event.data);",
  "  switch (msg.type) \x7b",
  "    case 'DashboardData': showDashboard(msg.data); break;",
  "    case 'BlockDetail': show(JSON.stringify(msg.block, null, 2)); break;",
  "    case 'TransactionDetail': show(JSON.stringify(msg.transaction, null, 2)); break;",
  "    case 'Error': show(msg.message, true); break;",
  "  \x7d",
  "\x7d;",
  "",
  "document.getElementById('search').onsubmit = (e) => \x7b",
  "  e.preventDefault();",
  "  const id = document.getElementById('txid').value.trim();",
  "  if (id) socket.send(JSON.stringify(\x7b type: 'GetTransaction', tx_id: id \x7d));",
  "\x7d;",
  "",
  "setInterval(() => socket.readyState === 1 && socket.send(JSON.stringify(\x7b type: 'Ping' \x7d)), 30000);",
  "</script>",
  "</body>",
  "</html>"]

/-- The page as it is sent. -/
def page : String :=
  String.join (pageLines.map (· ++ "\n"))

end ChannelLedger.Server
